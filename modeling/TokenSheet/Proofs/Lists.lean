import Mathlib.Data.List.Forall2
import Mathlib.Data.List.Induction
import Mathlib.Data.List.Nodup
import Mathlib.Data.List.Perm.Basic

/-!
What a list says apart from its order.

A list without duplicates and a list of keyed values answer the same questions in every order, and
so does a search that fits one element only. A stable sort forgets the order as well, except among
elements that it takes for equal (`mergeSort_eq_of_classes`). Lists of partners, related element by
element, stay so under filters and stable sorts, and have the same image where partners have.
-/

namespace TokenSheet

variable {α β γ : Type}

/-! ## First appearances -/

section
variable [DecidableEq α]

theorem eraseDups_concat (xs : List α) (x : α) :
    (xs ++ [x]).eraseDups = if x ∈ xs then xs.eraseDups else xs.eraseDups ++ [x] := by
  rw [List.eraseDups_append, List.cons_removeAll, List.nil_removeAll]
  by_cases mem : x ∈ xs <;> simp [mem, List.eraseDups_cons]

theorem eraseDups_nodup (xs : List α) : xs.eraseDups.Nodup := by
  induction xs using List.reverseRecOn with
  | nil => exact .nil
  | append_singleton xs x ih =>
      rw [eraseDups_concat]
      split
      · exact ih
      · rename_i new
        refine List.nodup_append.2 ⟨ih, List.pairwise_singleton _ x, fun a mem b last same => ?_⟩
        rw [same, List.mem_singleton.1 last] at mem
        exact new (List.mem_eraseDups.1 mem)

theorem eraseDups_of_nodup {xs : List α} (nodup : xs.Nodup) : xs.eraseDups = xs := by
  induction xs using List.reverseRecOn with
  | nil => rfl
  | append_singleton xs x ih =>
      obtain ⟨front, -, apart⟩ := List.nodup_append.1 nodup
      rw [eraseDups_concat, ih front, if_neg fun mem => ?_]
      exact apart x mem x (List.mem_singleton_self x) rfl

/-- Where every part of a list is empty or the same, that one gives the order of first
appearance. -/
theorem eraseDups_flatMap {xs : List β} {part : β → List α} {all : List α} (nodup : all.Nodup)
    (parts : ∀ x ∈ xs, part x = [] ∨ part x = all) (some_one : ∃ x ∈ xs, part x = all) :
    (xs.flatMap part).eraseDups = all := by
  induction xs with
  | nil =>
      obtain ⟨x, mem, -⟩ := some_one
      cases mem
  | cons x rest ih =>
      obtain ⟨here, parts⟩ := List.forall_mem_cons.1 parts
      rw [List.flatMap_cons, List.eraseDups_append]
      by_cases whole : part x = all
      · -- nothing after a whole part is new
        have old : (rest.flatMap part).removeAll all = [] := by
          refine List.filter_eq_nil_iff.2 fun a mem => ?_
          obtain ⟨y, listed, inside⟩ := List.mem_flatMap.1 mem
          rcases parts y listed with empty | same
          · rw [empty] at inside
            cases inside
          · rw [same] at inside
            simp [inside]
        rw [whole, eraseDups_of_nodup nodup, old]
        exact List.append_nil all
      · have empty : part x = [] := here.resolve_right whole
        have later : ∃ y ∈ rest, part y = all := by
          obtain ⟨y, mem, same⟩ := some_one
          rcases List.mem_cons.1 mem with rfl | mem
          · exact absurd same whole
          · exact ⟨y, mem, same⟩
        rw [empty, List.removeAll_nil]
        exact ih parts later

/-- Lists of the same elements have the same elements without duplicates. -/
theorem eraseDups_perm {xs ys : List α} (perm : xs.Perm ys) : xs.eraseDups.Perm ys.eraseDups := by
  refine (List.perm_ext_iff_of_nodup (eraseDups_nodup xs) (eraseDups_nodup ys)).2 fun a => ?_
  rw [List.mem_eraseDups, List.mem_eraseDups, perm.mem_iff]

end

/-! ## First appearances in order -/

section
variable [DecidableEq α] {r : α → α → Prop} {xs ys : List α}

/-- First appearances in a list that is in order, up to repetitions. -/
theorem pairwise_eraseDups (sorted : xs.Pairwise fun a b => a = b ∨ r a b) :
    xs.eraseDups.Pairwise r := by
  induction xs using List.reverseRecOn with
  | nil => exact .nil
  | append_singleton xs x ih =>
      obtain ⟨front, -, last⟩ := List.pairwise_append.1 sorted
      rw [eraseDups_concat]
      split
      · exact ih front
      · rename_i new
        refine List.pairwise_append.2 ⟨ih front, List.pairwise_singleton r x, fun a mem b here => ?_⟩
        obtain rfl := List.mem_singleton.1 here
        rw [List.mem_eraseDups] at mem
        rcases last a mem b (List.mem_singleton_self b) with rfl | before
        · exact absurd mem new
        · exact before

/-- What is in order up to repetitions may go on with elements that are there and with such as
belong behind all of them. -/
theorem pairwise_eraseDups_append_iff (sorted : ys.Pairwise fun a b => a = b ∨ r a b) :
    (xs ++ ys).eraseDups.Pairwise r ↔
      xs.eraseDups.Pairwise r ∧ ∀ a ∈ ys, a ∈ xs ∨ ∀ b ∈ xs, r b a := by
  have added {a : α} : a ∈ (ys.removeAll xs).eraseDups ↔ a ∈ ys ∧ a ∉ xs := by
    rw [List.mem_eraseDups, List.removeAll, List.mem_filter]
    simp
  have kept : (ys.removeAll xs).Sublist ys := List.filter_sublist
  have new := pairwise_eraseDups (sorted.sublist kept)
  rw [List.eraseDups_append, List.pairwise_append]
  constructor
  · rintro ⟨front, -, behind⟩
    refine ⟨front, fun a mem => ?_⟩
    by_cases old : a ∈ xs
    · exact .inl old
    · exact .inr fun b earlier => behind b (List.mem_eraseDups.2 earlier) a (added.2 ⟨mem, old⟩)
  · rintro ⟨front, behind⟩
    refine ⟨front, new, fun b earlier a later => ?_⟩
    obtain ⟨mem, fresh⟩ := added.1 later
    exact (behind a mem).resolve_left fresh b (List.mem_eraseDups.1 earlier)

/-- Whether each part of a list goes on from the parts before it with elements that are there and
with such as belong behind all of them. -/
def Gradual (r : α → α → Prop) (part : β → List α) (parts : List β) : Prop :=
  ∀ front x, front ++ [x] <+: parts →
    ∀ a ∈ part x, a ∈ front.flatMap part ∨ ∀ b ∈ front.flatMap part, r b a

theorem pairwise_eraseDups_flatMap_iff {part : β → List α} {parts : List β}
    (sorted : ∀ x ∈ parts, (part x).Pairwise fun a b => a = b ∨ r a b) :
    (parts.flatMap part).eraseDups.Pairwise r ↔ Gradual r part parts := by
  induction parts using List.reverseRecOn with
  | nil =>
      refine iff_of_true .nil fun front x first => ?_
      exact absurd (List.prefix_nil.1 first) (by simp)
  | append_singleton parts x ih =>
      obtain ⟨earlier, here⟩ := List.forall_mem_append.1 sorted
      rw [List.flatMap_append, List.flatMap_singleton,
        pairwise_eraseDups_append_iff (here x (List.mem_singleton_self x)), ih earlier]
      constructor
      · rintro ⟨before, last⟩ front y first
        rcases List.prefix_concat_iff.1 first with whole | inside
        · obtain ⟨rfl, same⟩ := List.append_inj' whole rfl
          obtain rfl := (List.cons.inj same).1
          exact last
        · exact before front y inside
      · intro all
        refine ⟨fun front y first => all front y (first.trans (List.prefix_append _ _)), ?_⟩
        exact all parts x List.prefix_rfl

omit [DecidableEq α] in
/-- Parts that all bring the same are gradual. -/
theorem gradual_of_same {part : β → List α} {parts : List β} {all : List α}
    (same : ∀ x ∈ parts, part x = all) : Gradual r part parts := by
  intro front x first a mem
  obtain ⟨earlier, here⟩ := List.forall_mem_append.1 fun y inside => same y (first.subset inside)
  rw [here x (List.mem_singleton_self x)] at mem
  cases front with
  | nil => exact .inr (List.forall_mem_nil _)
  | cons y front =>
      refine .inl (List.mem_flatMap.2 ⟨y, List.mem_cons_self, ?_⟩)
      rwa [earlier y List.mem_cons_self]

end

/-! ## Keyed values -/

section
variable [BEq α] [LawfulBEq α] {entries : List (α × β)} {k : α} {v : β}

theorem mem_of_lookup (found : entries.lookup k = some v) : (k, v) ∈ entries := by
  obtain ⟨front, back, rfl, -⟩ := List.lookup_eq_some_iff.1 found
  exact List.mem_append_right _ List.mem_cons_self

/-- Under different keys a look-up finds exactly what is there. -/
theorem lookup_eq_some_iff_mem (keys : (entries.map (·.1)).Nodup) :
    entries.lookup k = some v ↔ (k, v) ∈ entries := by
  refine ⟨mem_of_lookup, fun mem => ?_⟩
  obtain ⟨front, back, rfl⟩ := List.append_of_mem mem
  refine List.lookup_eq_some_iff.2 ⟨front, back, rfl, fun p earlier => ?_⟩
  rw [List.map_append, List.map_cons] at keys
  have apart := (List.nodup_append.1 keys).2.2 p.1 (List.mem_map_of_mem earlier) k
    List.mem_cons_self
  simpa using Ne.symm apart

/-- A look-up under different keys does not depend on the order. -/
theorem lookup_perm {entries' : List (α × β)} (keys : (entries.map (·.1)).Nodup)
    (perm : entries.Perm entries') (k : α) : entries.lookup k = entries'.lookup k := by
  have keys' := (perm.map (·.1)).nodup_iff.1 keys
  refine Option.ext fun v => ?_
  rw [lookup_eq_some_iff_mem keys, lookup_eq_some_iff_mem keys', perm.mem_iff]

/-- A look-up among values that have been replaced, or left out, key by key. -/
theorem lookup_filterMap (keys : (entries.map (·.1)).Nodup) (f : α → β → Option γ) (k : α) :
    (entries.filterMap fun e => (f e.1 e.2).map fun w => (e.1, w)).lookup k =
      (entries.lookup k).bind (f k) := by
  have kept : ((entries.filterMap fun e => (f e.1 e.2).map fun w => (e.1, w)).map
      (·.1)).Nodup := by
    refine keys.sublist ?_
    clear keys
    induction entries with
    | nil => exact .slnil
    | cons e rest ih =>
        rw [List.filterMap_cons, List.map_cons]
        cases f e.1 e.2 with
        | none => exact ih.cons _
        | some w => exact ih.cons_cons _
  refine Option.ext fun w => ?_
  rw [lookup_eq_some_iff_mem kept, Option.bind_eq_some_iff, List.mem_filterMap]
  simp only [lookup_eq_some_iff_mem keys, Option.map_eq_some_iff, Prod.mk.injEq]
  constructor
  · rintro ⟨⟨_, v⟩, mem, _, value, rfl, rfl⟩
    exact ⟨v, mem, value⟩
  · rintro ⟨v, mem, value⟩
    exact ⟨(k, v), mem, w, value, rfl, rfl⟩

end

/-! ## Searches -/

/-- What fits one element only is the same in every order. -/
theorem filter_perm {p : α → Bool} {xs ys : List α} (perm : xs.Perm ys)
    (one : ∀ a ∈ xs, ∀ b ∈ xs, p a → p b → a = b) : xs.filter p = ys.filter p := by
  -- any order will do, since no two elements are left to be compared
  have sorted (zs : List α) : zs.Pairwise fun _ _ => True :=
    List.pairwise_of_forall fun _ _ => trivial
  refine List.Perm.eq_of_pairwise (fun a b first second _ _ => ?_) (sorted _) (sorted _)
    (perm.filter p)
  obtain ⟨first, fits⟩ := List.mem_filter.1 first
  obtain ⟨second, fits'⟩ := List.mem_filter.1 second
  exact one a first b (perm.mem_iff.2 second) fits fits'

/-- A search for it from the back finds the same in every order. -/
theorem find?_reverse_perm {p : α → Bool} {xs ys : List α} (perm : xs.Perm ys)
    (one : ∀ a ∈ xs, ∀ b ∈ xs, p a → p b → a = b) : xs.reverse.find? p = ys.reverse.find? p := by
  rw [← List.head?_filter, ← List.head?_filter, List.filter_reverse, List.filter_reverse,
    filter_perm perm one]

/-- In a list in order, what a search finds comes before everything else that fits. -/
theorem rel_of_find? {r : α → α → Prop} {p : α → Bool} {xs : List α} (sorted : xs.Pairwise r)
    {x y : α} (found : xs.find? p = some x) (mem : y ∈ xs) (fits : p y) : y = x ∨ r x y := by
  obtain ⟨-, front, back, rfl, passed⟩ := List.find?_eq_some_iff_append.1 found
  obtain ⟨-, after, -⟩ := List.pairwise_append.1 sorted
  rcases List.mem_append.1 mem with early | late
  · have unfit := passed y early
    simp [fits] at unfit
  · rcases List.mem_cons.1 late with here | late
    · exact Or.inl here
    · exact Or.inr ((List.pairwise_cons.1 after).1 y late)

/-- Where only one element of a list without duplicates gives anything, that is all. -/
theorem flatMap_of_only {f : α → List β} {xs : List α} (nodup : xs.Nodup) {a : α} (mem : a ∈ xs)
    (others : ∀ b ∈ xs, b ≠ a → f b = []) : xs.flatMap f = f a := by
  induction xs with
  | nil => cases mem
  | cons x rest ih =>
      obtain ⟨new, nodup⟩ := List.nodup_cons.1 nodup
      obtain ⟨here, there⟩ := List.forall_mem_cons.1 others
      rw [List.flatMap_cons]
      rcases List.mem_cons.1 mem with rfl | later
      · have nothing : rest.flatMap f = [] :=
          List.flatMap_eq_nil_iff.2 fun b mem => there b mem fun same => new (same ▸ mem)
        rw [nothing, List.append_nil]
      · rw [here fun same => new (same ▸ later), List.nil_append, ih nodup later there]

/-- Elements that give nothing may be left out. -/
theorem flatMap_filter_eq {f : α → List β} {q : α → Bool} {xs : List α}
    (others : ∀ a ∈ xs, q a = false → f a = []) : (xs.filter q).flatMap f = xs.flatMap f := by
  induction xs with
  | nil => rfl
  | cons x rest ih =>
      obtain ⟨here, there⟩ := List.forall_mem_cons.1 others
      rw [List.filter_cons, List.flatMap_cons, ← ih there]
      cases kept : q x with
      | true => rw [if_pos rfl, List.flatMap_cons]
      | false => rw [if_neg Bool.false_ne_true, here kept, List.nil_append]

/-! ## Partners -/

section
variable {r : α → β → Prop} {xs : List α} {ys : List β} (partners : List.Forall₂ r xs ys)

include partners

/-- Partners with the same image make the same list of images. -/
theorem map_eq_of_forall₂ {f : α → γ} {g : β → γ} (same : ∀ x y, r x y → g y = f x) :
    ys.map g = xs.map f := by
  induction partners with
  | nil => rfl
  | cons first _ ih => rw [List.map_cons, List.map_cons, same _ _ first, ih]

theorem filterMap_eq_of_forall₂ {f : α → Option γ} {g : β → Option γ}
    (same : ∀ x y, r x y → g y = f x) : ys.filterMap g = xs.filterMap f := by
  induction partners with
  | nil => rfl
  | cons first _ ih => rw [List.filterMap_cons, List.filterMap_cons, same _ _ first, ih]

theorem flatMap_eq_of_forall₂ {f : α → List γ} {g : β → List γ}
    (same : ∀ x y, r x y → g y = f x) : ys.flatMap g = xs.flatMap f := by
  rw [List.flatMap_def, List.flatMap_def, map_eq_of_forall₂ partners same]

/-- A search that fits partners together finds partners, here seen by their common image. -/
theorem find?_map_eq_of_forall₂ {p : α → Bool} {q : β → Bool} {f : α → γ} {g : β → γ}
    (fits : ∀ x y, r x y → q y = p x) (same : ∀ x y, r x y → g y = f x) :
    (ys.find? q).map g = (xs.find? p).map f := by
  induction partners with
  | nil => rfl
  | @cons x y _ _ first _ ih =>
      rw [List.find?_cons, List.find?_cons, fits x y first]
      cases p x with
      | true => exact congrArg some (same x y first)
      | false => exact ih

/-- Partners that are kept together. -/
theorem forall₂_filter {p : α → Bool} {q : β → Bool} (same : ∀ x y, r x y → q y = p x) :
    List.Forall₂ r (xs.filter p) (ys.filter q) :=
  List.rel_filter (fun x y related => by simp only [same x y related]) partners

end

/-! ## Stable sorting -/

section
variable {le : α → α → Bool} {xs ys : List α}

/-- The elements of a list that a comparison takes for equal to a given one. -/
def classOf (le : α → α → Bool) (a : α) (xs : List α) : List α :=
  xs.filter fun b => le a b && le b a

theorem mem_classOf {a b : α} : b ∈ classOf le a xs ↔ b ∈ xs ∧ le a b ∧ le b a := by
  rw [classOf, List.mem_filter, Bool.and_eq_true]

theorem classOf_cons_of_equal {a b : α} (below : le a b) (above : le b a) (xs : List α) :
    classOf le a (b :: xs) = b :: classOf le a xs := by
  rw [classOf, List.filter_cons, if_pos (by rw [below, above]; rfl), classOf]

/-- Sorted lists that agree on the order inside each class are equal. -/
theorem eq_of_classes (refl : ∀ a, le a a) (sorted : xs.Pairwise (le · ·))
    (sorted' : ys.Pairwise (le · ·)) (classes : ∀ a, classOf le a xs = classOf le a ys) :
    xs = ys := by
  have within {us vs : List α} (same : ∀ a, classOf le a us = classOf le a vs) {a : α}
      (mem : a ∈ us) : a ∈ vs := by
    have here : a ∈ classOf le a us := mem_classOf.2 ⟨mem, refl a, refl a⟩
    rw [same] at here
    exact (mem_classOf.1 here).1
  induction xs generalizing ys with
  | nil =>
      cases ys with
      | nil => rfl
      | cons y ys => cases within (fun a => (classes a).symm) List.mem_cons_self
  | cons x xs ih =>
      cases ys with
      | nil => cases within classes List.mem_cons_self
      | cons y ys =>
          obtain ⟨least, tail⟩ := List.pairwise_cons.1 sorted
          obtain ⟨least', tail'⟩ := List.pairwise_cons.1 sorted'
          have below : le x y := by
            rcases List.mem_cons.1 (within (fun a => (classes a).symm) List.mem_cons_self) with
              rfl | later
            · exact refl y
            · exact least y later
          have above : le y x := by
            rcases List.mem_cons.1 (within classes List.mem_cons_self) with rfl | later
            · exact refl x
            · exact least' x later
          -- the heads are of one class, and each is the first of its list in it
          have heads := classes x
          rw [classOf_cons_of_equal (refl x) (refl x), classOf_cons_of_equal below above] at heads
          obtain rfl := (List.cons.inj heads).1
          refine congrArg _ (ih tail tail' fun a => ?_)
          have tails := classes a
          simp only [classOf, List.filter_cons] at tails ⊢
          split at tails
          · exact (List.cons.inj tails).2
          · exact tails

/-- A sort keeps the order inside each class. -/
theorem classOf_mergeSort (trans : ∀ a b c, le a b → le b c → le a c)
    (total : ∀ a b, le a b || le b a) (a : α) (xs : List α) :
    classOf le a (xs.mergeSort le) = classOf le a xs := by
  have sorted : (classOf le a xs).Pairwise (le · ·) := by
    refine List.pairwise_of_forall_mem_list fun b first c second => ?_
    exact trans b a c (mem_classOf.1 first).2.2 (mem_classOf.1 second).2.1
  have inside : (classOf le a xs).Sublist (xs.mergeSort le) :=
    List.sublist_mergeSort trans total sorted List.filter_sublist
  have again := inside.filter fun b => le a b && le b a
  have length : (classOf le a (xs.mergeSort le)).length = (classOf le a xs).length :=
    ((List.mergeSort_perm xs le).filter _).length_eq
  rw [classOf, List.filter_filter] at again
  simp only [Bool.and_self] at again
  exact (again.eq_of_length length.symm).symm

/-- A stable sort gives the same list for all lists with the same order inside each class. -/
theorem mergeSort_eq_of_classes (trans : ∀ a b c, le a b → le b c → le a c)
    (total : ∀ a b, le a b || le b a) (classes : ∀ a, classOf le a xs = classOf le a ys) :
    xs.mergeSort le = ys.mergeSort le := by
  refine eq_of_classes (fun a => by simpa using total a a) (List.pairwise_mergeSort trans total xs)
    (List.pairwise_mergeSort trans total ys) fun a => ?_
  rw [classOf_mergeSort trans total, classOf_mergeSort trans total, classes]

/-- Lists of partners that compare alike are sorted into lists of partners. -/
theorem forall₂_mergeSort {r : α → β → Prop} {le' : β → β → Bool} {ys : List β}
    (related : List.Forall₂ r xs ys)
    (alike : ∀ a b a' b', r a a' → r b b' → le a b = le' a' b') :
    List.Forall₂ r (xs.mergeSort le) (ys.mergeSort le') := by
  obtain ⟨pairs, rfl, rfl, partners⟩ : ∃ pairs : List (α × β), pairs.map (·.1) = xs ∧
      pairs.map (·.2) = ys ∧ ∀ p ∈ pairs, r p.1 p.2 := by
    induction related with
    | nil => exact ⟨[], rfl, rfl, List.forall_mem_nil _⟩
    | @cons x y _ _ first _ ih =>
        obtain ⟨pairs, rfl, rfl, partners⟩ := ih
        exact ⟨(x, y) :: pairs, rfl, rfl, List.forall_mem_cons.2 ⟨first, partners⟩⟩
  have left := List.map_mergeSort (r := fun p q => le p.1 q.1) (s := le) (f := Prod.fst)
    (l := pairs) fun _ _ _ _ => rfl
  have right := List.map_mergeSort (r := fun p q => le p.1 q.1) (s := le') (f := Prod.snd)
    (l := pairs) fun p first q second => alike _ _ _ _ (partners p first) (partners q second)
  rw [← left, ← right, List.forall₂_map_left_iff, List.forall₂_map_right_iff, List.forall₂_same]
  exact fun p mem => partners p (List.mem_mergeSort.1 mem)

end

end TokenSheet
