import TokenSheet.Fluid.Treatment

/-!
How far a token strays from the straight line between its end points.

The deviation of an inner mode is the distance of its value from the line, measured in spans between the
values at the two ends. A token that lies on the line in every mode has no deviation.
-/

namespace TokenSheet.Fluid

/-- A value at a width, with the name of its mode. -/
structure NamedSample (α : Type) extends Sample α where
  name : String

/-- An inner mode compared with the line. -/
structure Stray (α : Type) where
  name : String
  px : Int
  actual : α
  expected : α
  deviation : α

/-- The samples of a token that does not stay the same, with what its inner modes are like. -/
structure Profile (α : Type) where
  interior : List (Stray α)
  greatest : α
  samples : List (NamedSample α)

variable {α : Type} [Scalar α]

open Scalar

/-- An inner mode measured against the line through `narrow` with a slope. -/
def strayOf (narrow : Sample α) (m span : α) (s : NamedSample α) : Except NumberError (Stray α) := do
  let expected := narrow.value + m * (← ofInt (s.px - narrow.px))
  return ⟨s.name, s.px, s.value, expected, magnitude (s.value - expected) / span⟩

/-- The inner modes of samples in order from the widest to the narrowest. Nothing is measured when the end
points have one value or one width. -/
def interior (samples : List (NamedSample α)) : Except NumberError (List (Stray α)) :=
  match samples.head?, samples.getLast? with
  | some wide, some narrow =>
    let span := magnitude (wide.value - narrow.value)
    if 3 ≤ samples.length ∧ below zero span ∧ wide.px ≠ narrow.px then do
      let m ← slope narrow.toSample wide.toSample
      samples.tail.dropLast.mapM (strayOf narrow.toSample m span)
    else .ok []
  | _, _ => .ok []

/-- The greatest deviation; zero if there is none. -/
def greatestDeviation : List (Stray α) → α
  | [] => zero
  | s :: rest => rest.foldl (fun most r => Scalar.greatest most r.deviation) s.deviation

/-- The profile of samples in order from the widest to the narrowest; nothing if all values are the same
or there are fewer than two. -/
def profile? (samples : List (NamedSample α)) : Except NumberError (Option (Profile α)) :=
  match samples with
  | [] => .ok none
  | [_] => .ok none
  | first :: _ =>
    if samples.all fun s => same s.value first.value then .ok none
    else do
      let inner ← interior samples
      return some ⟨inner, greatestDeviation inner, samples⟩

/-- The profile of a token over modes in order from the widest to the narrowest, if it is a number in each
of them. -/
def profileOf? (t : Token) (modes : List Mode) : Except NumberError (Option (Profile Float)) :=
  if t.kind = .float then
    match modes.mapM fun m => (t.numberIn m.id).map fun x => (⟨⟨m.px, x⟩, m.name⟩ : NamedSample Float) with
    | some samples => profile? samples
    | none => .ok none
  else .ok none

end TokenSheet.Fluid
