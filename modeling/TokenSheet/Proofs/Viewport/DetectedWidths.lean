import TokenSheet.Proofs.Lists
import TokenSheet.Proofs.Steps
import TokenSheet.Viewport.Detection

/-!
The widths that a detection leaves to the modes of its collection.

A mode writes its rounded number for every device that its name holds, and a later mode writes over
an earlier one. So the device of a mode ends up with the number of this mode unless a later mode
with a number names the device as well (`Overtakes`), and a number that rounds to zero leaves the
width as it was. Devices that no mode names keep their widths (`detected_widths`).
-/

namespace TokenSheet

open Design (Source RawVariable RawCollection RawMode)

variable {s : Source} {v : RawVariable} {m : RawMode} {c : RawCollection} {d : Detected}
  {x : Float} {device : Device}

/-! ## Taking over what was found -/

namespace Detected

/-- The widths with one of those found in place. -/
def take (w : Widths) (f : Device × Int) : Widths :=
  match Width.ofInt? f.2 with
  | some px => w.set f.1 px
  | none => w

theorem get_take_of_ne (w : Widths) {f : Device × Int} (other : device ≠ f.1) :
    (take w f).get device = w.get device := by
  unfold take
  cases Width.ofInt? f.2 with
  | some px => exact w.get_set_of_ne px other
  | none => rfl

theorem get_take_self (w : Widths) (device : Device) (px : Int) :
    (take w (device, px)).get device = (Width.ofInt? px).getD (w.get device) := by
  unfold take
  cases Width.ofInt? px with
  | some px => exact w.get_set_self device px
  | none => rfl

theorem get_foldl_take {width? : Device → Option Int} {devices : List Device}
    (distinct : devices.Nodup) (w : Widths) (device : Device) :
    ((devices.filterMap fun e => (width? e).map fun px => (e, px)).foldl take w).get device =
      if device ∈ devices then ((width? device).bind Width.ofInt?).getD (w.get device)
      else w.get device := by
  induction devices generalizing w with
  | nil => rfl
  | cons e rest ih =>
      obtain ⟨fresh, others⟩ := List.nodup_cons.1 distinct
      rw [List.filterMap_cons]
      by_cases here : device = e
      · obtain rfl := here
        rw [if_pos List.mem_cons_self]
        cases width? device with
        | none => exact (ih others w).trans (if_neg fresh)
        | some px =>
            rw [Option.map_some, List.foldl_cons, ih others, if_neg fresh, get_take_self]
            rfl
      · have later : device ∈ e :: rest ↔ device ∈ rest := by simp [here]
        simp only [later]
        cases width? e with
        | none => exact ih others w
        | some px => rw [Option.map_some, List.foldl_cons, ih others, get_take_of_ne w here]

/-- A device gets the width that was found for it, if that is positive, and keeps its own one
otherwise. -/
theorem get_apply (d : Detected) (w : Widths) (device : Device) :
    (d.apply w).get device = ((d.width? device).bind Width.ofInt?).getD (w.get device) := by
  have every : device ∈ Device.all := by cases device <;> decide
  exact (get_foldl_take (by decide) w device).trans (if_pos every)

theorem px_apply (w : Widths) {px : Int} (found : d.width? device = some px) :
    ((d.apply w).get device).px = if 0 < px then px else (w.get device).px := by
  rw [get_apply, found, Option.bind_some, Width.ofInt?]
  by_cases positive : 0 < px
  · rw [dif_pos positive, if_pos positive]
    rfl
  · rw [dif_neg positive, if_neg positive]
    rfl

end Detected

/-! ## What a mode writes -/

/-- Whether a variable has a positive number in a mode, over one reference at most. -/
def Gives (s : Source) (v : RawVariable) (m : RawMode) (x : Float) : Prop :=
  widthIn? s v m.id = .ok (some x) ∧ ¬ x ≤ 0

/-- Whether a later mode writes over the width of a mode: it has a number itself, and its name holds
the device of the other one. -/
def Overtakes (s : Source) (v : RawVariable) (later m : RawMode) : Prop :=
  (∃ device ∈ Device.ofMode? m.name, device ∈ Device.namedIn later.name) ∧ ∃ x, Gives s v later x

theorem Device.namedIn_nodup (text : String) : (Device.namedIn text).Nodup := by
  have all : Device.all.Nodup := by decide
  unfold Device.namedIn
  exact all.filter _

theorem Device.named_of_ofMode? (own : Device.ofMode? m.name = some device) :
    device ∈ Device.namedIn m.name :=
  List.mem_of_mem_head? own

/-- A mode with a positive number writes it, rounded, for every device that its name holds. -/
theorem widthsOfMode_of_gives {ws : List (Device × Int)} (run : widthsOfMode s v m = .ok ws)
    (number : Gives s v m x) (named : device ∈ Device.namedIn m.name) :
    ∃ px, doubleRound x = .ok px ∧ ws = (Device.namedIn m.name).map fun e => (e, px) := by
  rw [widthsOfMode, number.1, ok_bind] at run
  simp only [if_neg number.2] at run
  obtain ⟨w, -, step⟩ := exists_of_mapM run named
  cases rounded : doubleRound x with
  | error e =>
      rw [rounded] at step
      cases step
  | ok px =>
      rw [rounded] at run
      have each := mapM_map_eq (g := id) (h := fun e => (e, px)) run fun e w step => by
        cases step
        rfl
      rw [List.map_id] at each
      exact ⟨px, rfl, each⟩

/-- A mode writes for devices in its name only, and only if it has a positive number. -/
theorem gives_of_mem_widthsOfMode {ws : List (Device × Int)} (run : widthsOfMode s v m = .ok ws)
    {e : Device × Int} (mem : e ∈ ws) : e.1 ∈ Device.namedIn m.name ∧ ∃ x, Gives s v m x := by
  unfold widthsOfMode at run
  obtain ⟨number?, read, run⟩ := bind_eq_ok.1 run
  cases number? with
  | none =>
      cases run
      cases mem
  | some x =>
      simp only [] at run
      by_cases small : x ≤ 0
      · rw [if_pos small] at run
        cases run
        cases mem
      · rw [if_neg small] at run
        obtain ⟨device, named, step⟩ := mem_mapM run mem
        obtain ⟨px, -, whole⟩ := bind_eq_ok.1 step
        cases whole
        exact ⟨named, x, read, small⟩

/-! ## What the modes of a collection leave -/

section
variable {ms : List RawMode} {ws : List (List (Device × Int))}

/-- What no mode with a number names is not written. -/
theorem lookup_of_unnamed (run : ms.mapM (widthsOfMode s v) = .ok ws)
    (silent : ∀ m ∈ ms, device ∈ Device.namedIn m.name → ∀ x, ¬ Gives s v m x) :
    ws.flatten.reverse.lookup device = none := by
  refine List.lookup_eq_none_iff.2 fun e mem => bne_iff_ne.2 fun same => ?_
  obtain ⟨w, written, inside⟩ := List.mem_flatten.1 (List.mem_reverse.1 mem)
  obtain ⟨m, listed, step⟩ := mem_mapM run written
  obtain ⟨named, x, number⟩ := gives_of_mem_widthsOfMode step inside
  exact silent m listed (same ▸ named) x number

/-- The number of a mode stays for a device in its name unless a later mode writes for the
device. -/
theorem lookup_of_last {front back : List RawMode}
    (run : (front ++ m :: back).mapM (widthsOfMode s v) = .ok ws) (number : Gives s v m x)
    (named : device ∈ Device.namedIn m.name)
    (last : ∀ later ∈ back, device ∈ Device.namedIn later.name → ∀ y, ¬ Gives s v later y) :
    ∃ px, doubleRound x = .ok px ∧ ws.flatten.reverse.lookup device = some px := by
  rw [List.mapM_append] at run
  obtain ⟨before, -, run⟩ := bind_eq_ok.1 run
  obtain ⟨rest, run, whole⟩ := bind_eq_ok.1 run
  rw [List.mapM_cons] at run
  obtain ⟨here, step, run⟩ := bind_eq_ok.1 run
  obtain ⟨after, others, joined⟩ := bind_eq_ok.1 run
  cases joined
  cases whole
  obtain ⟨px, rounded, written⟩ := widthsOfMode_of_gives step number named
  refine ⟨px, rounded, ?_⟩
  have own : here.reverse.lookup device = some px := by
    have keys : (here.reverse.map (·.1)).Nodup := by
      rw [written, ← List.map_reverse, List.map_map]
      exact (List.map_id _).symm ▸ List.nodup_reverse.2 (Device.namedIn_nodup m.name)
    rw [lookup_eq_some_iff_mem keys, List.mem_reverse, written]
    exact List.mem_map.2 ⟨device, named, rfl⟩
  rw [List.flatten_append, List.flatten_cons, List.reverse_append, List.reverse_append,
    List.lookup_append, List.lookup_append, lookup_of_unnamed others last, own]
  rfl

end

/-! ## Detection -/

/-- Where widths were found: in a collection of the design that may hold widths, under its variable
of the viewport. -/
structure Detected.From (s : Source) (d : Detected) (c : RawCollection) (v : RawVariable) :
    Prop where
  listed : c ∈ s.localCollections
  mayHold : mayHoldWidths c = true
  viewport : viewportVariable? s none c.variableIds = .ok (some v)
  name : d.sourceName = v.name
  widths : ∃ ws, c.modes.mapM (widthsOfMode s v) = .ok ws ∧ d.widths = ws.flatten

theorem detectIn_eq_some (run : detectIn s c = .ok (some d)) :
    ∃ v, viewportVariable? s none c.variableIds = .ok (some v) ∧ d.sourceName = v.name ∧
      ∃ ws, c.modes.mapM (widthsOfMode s v) = .ok ws ∧ d.widths = ws.flatten := by
  unfold detectIn at run
  obtain ⟨v?, viewport, run⟩ := bind_eq_ok.1 run
  cases v? with
  | none => cases run
  | some v =>
      obtain ⟨ws, modes, run⟩ := bind_eq_ok.1 run
      rw [pure_eq_ok] at run
      split at run
      · cases run
        exact ⟨v, viewport, rfl, ws, modes, rfl⟩
      · cases run

theorem detectFirst_eq_some {cs : List RawCollection} (run : detectFirst s cs = .ok (some d)) :
    ∃ c ∈ cs, detectIn s c = .ok (some d) := by
  induction cs with
  | nil => cases run
  | cons c rest ih =>
      rw [detectFirst] at run
      obtain ⟨d?, here, run⟩ := bind_eq_ok.1 run
      cases d? with
      | none =>
          obtain ⟨c', mem, found⟩ := ih run
          exact ⟨c', List.mem_cons_of_mem _ mem, found⟩
      | some d' =>
          cases run
          exact ⟨c, List.mem_cons_self, here⟩

theorem exists_from_of_detect (run : detect s = .ok (some d)) : ∃ c v, d.From s c v := by
  obtain ⟨c, mem, found⟩ := detectFirst_eq_some run
  obtain ⟨listed, mayHold⟩ := List.mem_filter.1 mem
  obtain ⟨v, viewport, name, widths⟩ := detectIn_eq_some found
  exact ⟨c, v, listed, mayHold, viewport, name, widths⟩

/-- A mode with a positive number gets this number, rounded, as its width, unless it is zero then or
a later mode writes over it; devices that no mode names keep their widths. -/
theorem detected_widths (run : detect s = .ok (some d)) :
    ∃ c v, d.From s c v ∧ ∀ w : Widths,
      (∀ front m back x, c.modes = front ++ m :: back → Gives s v m x →
        (∀ later ∈ back, ¬ Overtakes s v later m) →
        ∃ px, doubleRound x = .ok px ∧
          (d.apply w).ofMode? m.name = if 0 < px then some px else w.ofMode? m.name) ∧
      ∀ device, (∀ m ∈ c.modes, device ∉ Device.namedIn m.name) →
        (d.apply w).get device = w.get device := by
  obtain ⟨c, v, origin⟩ := exists_from_of_detect run
  obtain ⟨ws, modes, widths⟩ := origin.widths
  refine ⟨c, v, origin, fun w => ⟨fun front m back x split number last => ?_,
    fun device unnamed => ?_⟩⟩
  · have own : (Device.ofMode? m.name).isSome := by
      have all := (Bool.and_eq_true_iff.1 origin.mayHold).2
      have mem : m ∈ c.modes := split ▸ List.mem_append_right _ List.mem_cons_self
      exact List.all_eq_true.1 all m mem
    obtain ⟨device, own⟩ := Option.isSome_iff_exists.1 own
    rw [split] at modes
    obtain ⟨px, rounded, found⟩ := lookup_of_last modes number (Device.named_of_ofMode? own)
      fun later mem named y number => last later mem ⟨⟨device, own, named⟩, y, number⟩
    refine ⟨px, rounded, ?_⟩
    have width : d.width? device = some px := by rw [Detected.width?, widths, found]
    rw [Widths.ofMode?, Widths.ofMode?, own, Option.map_some, Option.map_some,
      Detected.px_apply w width, apply_ite some]
  · have silent : d.width? device = none := by
      rw [Detected.width?, widths]
      exact lookup_of_unnamed modes fun m mem named => absurd named (unnamed m mem)
    rw [Detected.get_apply, silent]
    rfl

/-! ## A design with one viewport -/

namespace ViewportDesign

/-- A collection with modes of some names. -/
def collection (modes : List (String × Number)) : RawCollection where
  id := "c"
  name := "Dimension - 1. Foundations"
  modes := modes.map fun e => ⟨e.1, e.1⟩
  variableIds := ["v"]
  remote := false

/-- A variable with a number for each of some modes. -/
def viewport (modes : List (String × Number)) : RawVariable where
  id := "v"
  name := "viewport"
  description := none
  kind := .float
  values := modes.map fun e => (e.1, .number e.2)

def source (modes : List (String × Number)) : Source :=
  Design.Snapshot.source ⟨[collection modes], [viewport modes], []⟩

/-- What is found comes from the one collection and the one variable. -/
theorem eq_of_from {modes : List (String × Number)} (origin : d.From (source modes) c v) :
    c = collection modes ∧ v = viewport modes := by
  have here : c = collection modes := List.mem_singleton.1 origin.listed
  have found := origin.viewport
  rw [here] at found
  have one : viewportVariable? (source modes) none (collection modes).variableIds =
      .ok (some (viewport modes)) := by
    have lookup : lookupOrStop (source modes) "v" = .ok (some (viewport modes)) := rfl
    have named : Text.mentions (Text.lower "viewport") "viewport" = true := by decide +kernel
    have plain : Text.mentions (Text.lower "viewport") "min" = false := by decide +kernel
    have word : isNumberNamed (viewport modes) "viewport" = true :=
      Bool.and_eq_true_iff.2 ⟨rfl, named⟩
    have noMin : isNumberNamed (viewport modes) "min" = false :=
      Bool.and_eq_false_iff.2 (.inr plain)
    simp only [collection, viewportVariable?, lookup, ok_bind, word, noMin]
    rfl
  cases one.symm.trans found
  exact ⟨here, rfl⟩

/-- A half pixel is rounded to the even neighbour, and devices without a mode keep their width. -/
theorem desktop_and_mobile_widths :
    ∃ d, detect (source [("Desktop", .real 1440.5), ("Mobile", .int 375)]) = .ok (some d) ∧
      (d.apply .default).ofMode? "Desktop" = some 1440 ∧
      (d.apply .default).get .tablet = ⟨840, by decide⟩ := by
  have run : detect (source [("Desktop", .real 1440.5), ("Mobile", .int 375)]) =
      .ok (some ⟨[(.desktop, 1440), (.mobile, 375)], "viewport"⟩) := rfl
  obtain ⟨c, v, origin, widths⟩ := detected_widths run
  obtain ⟨rfl, rfl⟩ := eq_of_from origin
  obtain ⟨written, kept⟩ := widths .default
  refine ⟨⟨[(.desktop, 1440), (.mobile, 375)], "viewport"⟩, run, ?_, ?_⟩
  · obtain ⟨px, rounded, width⟩ := written [] ⟨"Desktop", "Desktop"⟩ [⟨"Mobile", "Mobile"⟩]
      1440.5 rfl ⟨rfl, by decide +kernel⟩ fun later mem overtakes => by
        obtain rfl := List.mem_singleton.1 mem
        obtain ⟨⟨device, own, named⟩, -⟩ := overtakes
        cases own
        exact absurd named (by decide)
    cases rounded
    exact width
  · exact kept .tablet (by decide)

/-- A number that rounds to zero leaves the width of its mode, and a mode whose name holds the
device of an earlier one writes over the number of this one. -/
theorem number_may_not_be_width :
    (∃ d, detect (source [("Desktop", .real 0.3), ("Mobile", .int 480)]) = .ok (some d) ∧
      Device.ofMode? "Desktop" = some .desktop ∧ Device.ofMode? "Mobile" = some .mobile ∧
      Gives (source [("Desktop", .real 0.3), ("Mobile", .int 480)])
        (viewport [("Desktop", .real 0.3), ("Mobile", .int 480)]) ⟨"Desktop", "Desktop"⟩ 0.3 ∧
      doubleRound 0.3 = .ok 0 ∧ (d.apply .default).ofMode? "Desktop" = some 1680) ∧
    ∃ d, detect (source [("Tablet", .int 768), ("Desktop Tablet", .int 1440)]) = .ok (some d) ∧
      Device.ofMode? "Tablet" = some .tablet ∧
      Device.ofMode? "Desktop Tablet" = some .desktop ∧
      Gives (source [("Tablet", .int 768), ("Desktop Tablet", .int 1440)])
        (viewport [("Tablet", .int 768), ("Desktop Tablet", .int 1440)])
        ⟨"Tablet", "Tablet"⟩ 768 ∧
      doubleRound 768 = .ok 768 ∧ (d.apply .default).ofMode? "Tablet" = some 1440 := by
  have small : detect (source [("Desktop", .real 0.3), ("Mobile", .int 480)]) =
      .ok (some ⟨[(.desktop, 0), (.mobile, 480)], "viewport"⟩) := rfl
  have double : detect (source [("Tablet", .int 768), ("Desktop Tablet", .int 1440)]) =
      .ok (some ⟨[(.tablet, 768), (.desktop, 1440), (.tablet, 1440)], "viewport"⟩) := rfl
  exact ⟨⟨_, small, rfl, rfl, ⟨rfl, by decide +kernel⟩, rfl, rfl⟩,
    ⟨_, double, rfl, rfl, ⟨rfl, by decide +kernel⟩, rfl, rfl⟩⟩

end ViewportDesign

end TokenSheet
