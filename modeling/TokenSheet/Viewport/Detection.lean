import TokenSheet.Token.Classification

/-!
Widths that a design carries itself.

A design may have a variable that holds the viewport width of each mode, in the foundations of its dimensions.
Detection takes the first such collection whose modes all name devices and whose variable gives at least two
widths. A width may be one reference away; it is rounded to an integer, a half to the even neighbour.
-/

namespace TokenSheet

open Design (Source RawVariable RawCollection RawValue)

/-- Why a detection ended without an answer. -/
inductive DetectionError where
  /-- The design tool did not answer a look-up. -/
  | source (reason : String)
  /-- A width cannot be computed. -/
  | number (error : NumberError)

/-- Widths found in a design: devices in the order of their modes, and the name of the variable. -/
structure Detected where
  widths : List (Device × Int)
  sourceName : String

namespace Detected

/-- The width found for a device; of several the last counts. -/
def width? (d : Detected) (device : Device) : Option Int :=
  d.widths.reverse.lookup device

/-- The devices that a width was found for, in their common order. -/
def found (d : Detected) : List (Device × Int) :=
  Device.all.filterMap fun device => (d.width? device).map fun px => (device, px)

/-- The widths with those found in place; a width that is not positive is not taken over. -/
def apply (d : Detected) (w : Widths) : Widths :=
  d.found.foldl (fun w f => match Width.ofInt? f.2 with
    | some px => w.set f.1 px
    | none => w) w

end Detected

/-- Whether a collection may hold the widths of its modes. -/
def mayHoldWidths (c : RawCollection) : Bool :=
  (CollectionName.ofName c.name).domain == "dimension" && Layer.ofName c.name == .foundations &&
    2 ≤ c.modes.length && c.modes.all fun m => (Device.ofMode? m.name).isSome

/-- A look-up that stops a detection when it fails. -/
def lookupOrStop (s : Source) (id : String) : Except DetectionError (Option RawVariable) :=
  (s.lookup id).mapError fun failure => .source failure.reason

/-- Whether a variable is a number whose name holds a word. -/
def isNumberNamed (v : RawVariable) (word : String) : Bool :=
  v.kind == .float && Text.mentions (Text.lower v.name) word

/-- The first variable of the viewport that also speaks of a minimum, else the first one of the viewport,
which `fallback` holds once it is found. -/
def viewportVariable? (s : Source) (fallback : Option RawVariable) :
    List String → Except DetectionError (Option RawVariable)
  | [] => .ok fallback
  | id :: rest => do
    match ← lookupOrStop s id with
    | none => viewportVariable? s fallback rest
    | some v =>
      if isNumberNamed v "viewport" then
        if isNumberNamed v "min" then return some v
        else viewportVariable? s (fallback.or (some v)) rest
      else viewportVariable? s fallback rest

/-- The value of a variable in a mode. -/
def rawValueIn (v : RawVariable) (modeId : String) : Except DetectionError (Option RawValue) :=
  (v.valueIn modeId).mapError .number

/-- The value at the target of a reference, in the first mode of the collection that lists the target. -/
def targetValue? (s : Source) (target : String) : Except DetectionError (Option RawValue) := do
  let owner := s.localCollections.find? fun c => c.variableIds.contains target
  match ← lookupOrStop s target, owner.bind (·.modes.head?) with
  | some v, some m => rawValueIn v m.id
  | _, _ => return none

/-- The number of a variable in a mode, over one reference at most. -/
def widthIn? (s : Source) (v : RawVariable) (modeId : String) :
    Except DetectionError (Option Float) := do
  let value ← match ← rawValueIn v modeId with
    | some (.reference target) => targetValue? s target
    | other => pure other
  match value with
  | some (.number x) => return some x
  | _ => return none

/-- The devices that a mode gives a width for. -/
def widthsOfMode (s : Source) (v : RawVariable) (m : Design.RawMode) :
    Except DetectionError (List (Device × Int)) := do
  match ← widthIn? s v m.id with
  | none => return []
  | some x =>
    if x ≤ 0 then return []
    else (Device.namedIn m.name).mapM fun d => do return (d, ← (doubleRound x).mapError .number)

/-- The widths in a collection, if there are at least two. -/
def detectIn (s : Source) (c : RawCollection) : Except DetectionError (Option Detected) := do
  match ← viewportVariable? s none c.variableIds with
  | none => return none
  | some v =>
    let widths ← c.modes.mapM (widthsOfMode s v)
    let detected : Detected := ⟨widths.flatten, v.name⟩
    return if 2 ≤ detected.found.length then some detected else none

/-- The first detection in a list of collections. -/
def detectFirst (s : Source) : List RawCollection → Except DetectionError (Option Detected)
  | [] => .ok none
  | c :: rest => do
    match ← detectIn s c with
    | some d => return some d
    | none => detectFirst s rest

/-- The widths that a design carries. -/
def detect (s : Source) : Except DetectionError (Option Detected) :=
  detectFirst s (s.localCollections.filter mayHoldWidths)

end TokenSheet
