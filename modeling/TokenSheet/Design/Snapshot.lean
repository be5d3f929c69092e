import TokenSheet.Design.Basic
import TokenSheet.Document.Check

/-!
Reading a snapshot from a document.

Fields are accepted under the name of the export format (`variableIds`) and under their plain name
(`variable_ids`); unknown fields are ignored. An absent document is an empty snapshot.
-/

namespace TokenSheet.Design

/-- Why a document is no snapshot. -/
inductive SnapshotError where
  | notMapping
  | invalid (failures : List Failure)

open Check

/-- A mode of a collection. -/
def checkMode : Document → Checked RawMode :=
  record fun es =>
    RawMode.mk <$> required es "modeId" "mode_id" text <*> required es "name" "name" text

/-- A collection. -/
def checkCollection : Document → Checked RawCollection :=
  record fun es =>
    RawCollection.mk
      <$> required es "id" "id" text
      <*> required es "name" "name" text
      <*> optional es "modes" "modes" [] (list checkMode)
      <*> optional es "variableIds" "variable_ids" [] (list text)
      <*> optional es "remote" "remote" false flag

/-- The names of the token types, as choices. -/
def kindChoices : List (String × TokenKind) :=
  TokenKind.all.map fun k => (k.label, k)

/-- A token type, in any letter case. -/
def checkKind : Document → Checked TokenKind
  | .text s => choice kindChoices (.text (Text.lower s))
  | d => choice kindChoices d

/-- A variable; its values are not looked at. -/
def checkVariable : Document → Checked RawVariable :=
  record fun es =>
    RawVariable.mk
      <$> required es "id" "id" text
      <*> required es "name" "name" text
      <*> optional es "description" "description" (some "") optionalText
      <*> required es "resolvedType" "resolved_type" checkKind
      <*> optional es "valuesByMode" "values_by_mode" [] (mapping .valid)

/-- A unit, in capital letters. -/
def checkUnit : Document → Checked String
  | .text s => .valid (Text.upper s)
  | d => text d

/-- A metric; without a unit it is automatic. -/
def checkMetric : Document → Checked Metric :=
  record fun es =>
    Metric.mk
      <$> optional es "unit" "unit" "AUTO" checkUnit
      <*> optional es "value" "value" 0 double

/-- The variable id of a binding: an object stands for its id. -/
def bindingTarget : Document → Document
  | .mapping entries => (Document.find? entries "id").getD .null
  | d => d

/-- The bindings of a text style; empty ones are left out. -/
def checkBindings : Document → Checked (List (String × String))
  | .mapping entries =>
    mapping text (.mapping ((entries.filter fun e => !e.2.isEmptyValue).map fun e =>
      (e.1, bindingTarget e.2)))
  | d => mapping text d

/-- A text style. -/
def checkTextStyle : Document → Checked RawTextStyle :=
  record fun es =>
    RawTextStyle.mk
      <$> required es "id" "id" text
      <*> required es "name" "name" text
      <*> optional es "fontFamily" "font_family" "" text
      <*> optional es "fontStyle" "font_style" "Regular" text
      <*> optional es "fontSize" "font_size" 16 double
      <*> optional es "lineHeight" "line_height" ⟨"AUTO", 0⟩ checkMetric
      <*> optional es "letterSpacing" "letter_spacing" ⟨"PIXELS", 0⟩ checkMetric
      <*> optional es "boundVariables" "bound_variables" [] checkBindings

/-- The fields of a snapshot. -/
def checkSnapshot (es : List (Key × Document)) : Checked Snapshot :=
  Snapshot.mk
    <$> optional es "collections" "collections" [] (list checkCollection)
    <*> optional es "variables" "variables" [] (list checkVariable)
    <*> optional es "textStyles" "text_styles" [] (list checkTextStyle)

/-- The snapshot of a document. -/
def Snapshot.ofDocument : Document → Except SnapshotError Snapshot
  | .null => .ok Snapshot.empty
  | .mapping entries => (checkSnapshot entries).toExcept.mapError .invalid
  | _ => .error .notMapping

end TokenSheet.Design
