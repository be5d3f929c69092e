import TokenSheet.Document.Check
import TokenSheet.Text.Blank
import TokenSheet.Text.Case

/-!
Viewport widths of the four kinds of device.

A width is where a device starts: the end point of an interpolation and the threshold of a media query. A mode
belongs to the first device whose name occurs in its own name, letter case apart. Widths are positive by
construction, and every operation keeps them so.
-/

namespace TokenSheet

/-- The devices that a mode may stand for. -/
inductive Device where
  | desktop
  | laptop
  | tablet
  | mobile
deriving DecidableEq, Repr

namespace Device

/-- All devices, in the order in which their names are looked for. -/
def all : List Device :=
  [.desktop, .laptop, .tablet, .mobile]

/-- The name of a device. -/
def label : Device → String
  | .desktop => "desktop"
  | .laptop => "laptop"
  | .tablet => "tablet"
  | .mobile => "mobile"

/-- The devices named in a text. -/
def namedIn (text : String) : List Device :=
  let low := Text.lower text
  all.filter fun d => Text.mentions low d.label

/-- The device that a mode belongs to. -/
def ofMode? (modeName : String) : Option Device :=
  (namedIn modeName).head?

end Device

/-- A width in pixels. -/
structure Width where
  px : Int
  positive : 0 < px

/-- The width of an integer, if it is one. -/
def Width.ofInt? (n : Int) : Option Width :=
  if h : 0 < n then some ⟨n, h⟩ else none

/-- One width for each device. -/
structure Widths where
  desktop : Width := ⟨1680, by decide⟩
  laptop : Width := ⟨1366, by decide⟩
  tablet : Width := ⟨840, by decide⟩
  mobile : Width := ⟨480, by decide⟩

/-- Why a document is no table of widths. -/
structure WidthsError where
  failures : List Failure

namespace Widths

/-- The widths that hold without any others. -/
def default : Widths := {}

/-- The width of a device. -/
def get (w : Widths) : Device → Width
  | .desktop => w.desktop
  | .laptop => w.laptop
  | .tablet => w.tablet
  | .mobile => w.mobile

/-- The widths with another one for a device. -/
def set (w : Widths) (d : Device) (x : Width) : Widths :=
  match d with
  | .desktop => { w with desktop := x }
  | .laptop => { w with laptop := x }
  | .tablet => { w with tablet := x }
  | .mobile => { w with mobile := x }

theorem get_set_self (w : Widths) (d : Device) (x : Width) : (w.set d x).get d = x := by
  cases d <;> rfl

theorem get_set_of_ne (w : Widths) {d e : Device} (x : Width) (h : e ≠ d) :
    (w.set d x).get e = w.get e := by
  cases d <;> cases e <;> first | rfl | exact absurd rfl h

/-- The width of a mode, by its name. -/
def ofMode? (w : Widths) (modeName : String) : Option Int :=
  (Device.ofMode? modeName).map fun d => (w.get d).px

/-- A positive integer. -/
def checkWidth (d : Document) : Checked Width :=
  match Check.integer d with
  | .valid n => match Width.ofInt? n with
    | some w => .valid w
    | none => .fail .notPositive
  | .invalid fs => .invalid fs

/-- The fields of a table of widths. -/
def fields : List (String × String) :=
  Device.all.map fun d => (d.label, d.label)

/-- A table of widths, on top of given ones. -/
def check (base : Widths) (es : List (Key × Document)) : Checked Widths :=
  (fun desktop laptop tablet mobile _ => Widths.mk desktop laptop tablet mobile)
    <$> Check.optional es "desktop" "desktop" base.desktop checkWidth
    <*> Check.optional es "laptop" "laptop" base.laptop checkWidth
    <*> Check.optional es "tablet" "tablet" base.tablet checkWidth
    <*> Check.optional es "mobile" "mobile" base.mobile checkWidth
    <*> Check.onlyFields fields es

/-- The table of a mapping; devices without a field keep their default. -/
def ofEntries (es : List (Key × Document)) : Except WidthsError Widths :=
  (check default es).toExcept.mapError .mk

/-- The widths with some replaced. Entries for other names and entries without a value are passed over. -/
def override (w : Widths) (es : List (Key × Document)) : Except WidthsError Widths :=
  let known := es.filter fun e =>
    (Device.all.any fun d => e.1 == .text d.label) && !e.2.isEmptyValue
  (check w known).toExcept.mapError .mk

end Widths

end TokenSheet
