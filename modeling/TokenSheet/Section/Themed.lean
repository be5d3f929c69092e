import TokenSheet.Section.Basic
import TokenSheet.Text.Slug
import TokenSheet.Token.Classification

/-!
Theme sections: a light default, and blocks that switch to the other themes.

Each theme block declares every token again, also where the themes agree, so that references resolve
whichever block wins. The themes of the system scheme come first, then those that the page may choose.

A collection without modes has no default mode. To ask for its section is a mistake of the caller that is not
reported, `themedDraft` is empty then; emission passes over such collections (`emitAll`).
-/

namespace TokenSheet

open Css (ThemeBlock Block)

/-- The block of a theme, unless it declares nothing. -/
def themeBlock? (o : Options) (declared : List String) (tokens : List Token)
    (theme : String) (m : Mode) : Except NumberError (Option ThemeBlock) := do
  let ds ← modeDeclarations o declared tokens m
  return if ds.isEmpty then none else some ⟨theme, ds⟩

/-- The blocks of several themes. -/
def themeBlocks (o : Options) (declared : List String) (tokens : List Token)
    (themes : List (String × Mode)) : Except NumberError (List ThemeBlock) :=
  themes.filterMapM fun (theme, m) => themeBlock? o declared tokens theme m

/-- The blocks for a light and a dark mode. -/
def pairBlocks (o : Options) (declared : List String) (tokens : List Token) (light dark : Mode) :
    Except NumberError (List Block) := do
  let pair := [("light", light), ("dark", dark)]
  let schemes ← if o.followsScheme then themeBlocks o declared tokens pair else pure []
  let chosen ← if o.followsAttribute then do
      pure [Block.chosenThemes (← themeBlocks o declared tokens pair)]
    else pure []
  return schemes.map .scheme ++ chosen

/-- The blocks for the modes that are neither light nor dark nor the default. -/
def furtherBlocks (o : Options) (declared : List String) (tokens : List Token) (modes : List Mode) :
    Except NumberError (List Block) := do
  if o.followsAttribute then
    let blocks ← themeBlocks o declared tokens (modes.map fun m => (Text.slug m.name, m))
    return blocks.map .furtherTheme
  else return []

/-- The section of a theme collection, which has a mode. -/
def themedDraft (o : Options) (gate : Gate) (c : Collection) (tokens : List Token) :
    Except NumberError Draft := do
  let light? := c.modeNamed? "light"
  let dark? := c.modeNamed? "dark"
  match light?.or c.firstMode? with
  | none => return {}
  | some standard =>
    let entries ← (admitted standard.id gate tokens).filterMapM (plainEntryIn o standard.id)
    let declared := declaredIds entries
    let pair ← match light?, dark? with
      | some light, some dark => pairBlocks o declared tokens light dark
      | _, _ => pure []
    let named := light?.toList ++ dark?.toList ++ [standard]
    let further ← furtherBlocks o declared tokens (c.modes.filter fun m => !named.contains m)
    return { entries, blocks := pair ++ further }

end TokenSheet
