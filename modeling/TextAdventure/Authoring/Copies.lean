import TextAdventure.Engine.World

/-! Writing copy: placeholders for languages, new copy and new texts for it. -/

namespace TextAdventure

namespace Authoring

/-- Stores copy under the number it claims, or under a new one. -/
def addCopy (claim : Claim) (copy : Copy) : Op Int := do
  let (id, copies) ← Op.ofExcept ((← get).copies.add claim copy)
  modify fun w => { w with copies }
  return id

/-- The placeholder of a language. -/
def placeholder (language text : Text) : Copy :=
  { key := emptyCopyKey, language, text, name := .text "empty" }

/-- Stores a placeholder for each language that has none, and gives what was stored. -/
def seedEmptyCopy (text : Text) : List Language → Op (Rows Copy)
  | [] => return []
  | language :: rest => do
    if ((← get).copies.find? emptyCopyKey language.code).isSome then seedEmptyCopy text rest
    else
      let copy := placeholder language.code text
      let id ← addCopy .unset copy
      return (id, copy) :: (← seedEmptyCopy text rest)

/-- Gives copy without a key a fresh one. -/
def withKey (copy : Copy) : Op Copy := do
  if copy.key = emptyCopyKey then
    let key ← modifyGet fun w => (w.keys.fresh.1, { w with keys := w.keys.fresh.2 })
    return { copy with key }
  else return copy

/-- Stores an entry of `copy` for each language, blank for all but its own. Gives the last entry in
its own language, with its number, or else `own`. -/
def addEntries (copy : Copy) (own : Option Int × Copy) : List Language → Op (Option Int × Copy)
  | [] => return own
  | language :: rest => do
    let isOwn := language.code = copy.language
    let entry := { copy with language := language.code, text := if isOwn then copy.text else [] }
    let id ← addCopy .unset entry
    addEntries copy (if isOwn then (some id, entry) else own) rest

/-- Stores copy, or an entry of it for each of the languages given. What it gives has no number
when the language of the copy is not among them: the copy itself is not stored then. -/
def createCopy (claim : Claim) (copy : Copy) (languages : Option (List Language)) :
    Op (Option Int × Copy) := do
  let copy ← withKey copy
  match languages with
  | none => return (some (← addCopy claim copy), copy)
  | some languages => addEntries copy (none, copy) languages

/-- Changes the text of a key in a language. -/
def updateCopy (key language text : Text) : Op (Int × Copy) := do
  match (← get).copies.find? key language with
  | none => throw (.notFound .copy (.name (key ++ ":" ++ language)))
  | some (id, copy) =>
    let copy := { copy with text }
    modify fun w => { w with copies := w.copies.put id copy }
    return (id, copy)

end Authoring

end TextAdventure
