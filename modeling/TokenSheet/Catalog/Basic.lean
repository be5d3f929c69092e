import TokenSheet.Token.Classification

/-!
The catalog: all collections and tokens of a design, with what went wrong while they were read.

Ids need not be unique. Where an id is looked up, the last collection or token with it counts.
-/

namespace TokenSheet

/-- A problem that leaves the rest of the design intact. -/
inductive Diagnostic where
  /-- The design tool did not answer the look-up of a variable. -/
  | lookupFailed (variableId reason : String)
  | brokenReference (token : String)
  | circularReference (token : String)
deriving DecidableEq, Repr

/-- The text of a diagnostic. -/
def Diagnostic.text : Diagnostic → String
  | .lookupFailed id reason => "Variable lookup failed: " ++ id ++ " (" ++ reason ++ ")"
  | .brokenReference token => Notice.text (.brokenReference token)
  | .circularReference token => Notice.text (.circularReference token)

/-- Collections and tokens in the order of the design. -/
structure Catalog where
  collections : List Collection
  tokens : List Token
  /-- The look-ups that failed: the id and the reason. -/
  failedLookups : List (String × String) := []
  /-- The names of the tokens with a reference to nothing. -/
  broken : List String := []
  /-- The names of the tokens whose references run in a circle. -/
  circular : List String := []

namespace Catalog

/-- The token with an id. -/
def token? (c : Catalog) (id : String) : Option Token :=
  c.tokens.reverse.find? fun t => t.id == id

/-- The collection with an id. -/
def collection? (c : Catalog) (id : String) : Option Collection :=
  c.collections.reverse.find? fun k => k.id == id

/-- The tokens of the collections with an id. -/
def tokensIn (c : Catalog) (collectionId : String) : List Token :=
  c.tokens.filter fun t => t.collectionId == collectionId

/-- The problems found, in the order in which they are reported. -/
def diagnostics (c : Catalog) : List Diagnostic :=
  c.failedLookups.map (fun f => .lookupFailed f.1 f.2) ++
    c.broken.map .brokenReference ++ c.circular.map .circularReference

/-- The notices of the reading, in order. -/
def notices (c : Catalog) : List Notice :=
  c.collections.filterMap Collection.notice? ++
    c.broken.map .brokenReference ++ c.circular.map .circularReference

theorem mem_tokens_of_token? {c : Catalog} {id : String} {t : Token} (h : c.token? id = some t) :
    t ∈ c.tokens ∧ t.id = id := by
  unfold token? at h
  exact ⟨List.mem_reverse.1 (List.mem_of_find?_eq_some h), by simpa using List.find?_some h⟩

end Catalog

end TokenSheet
