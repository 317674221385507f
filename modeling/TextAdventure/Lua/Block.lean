import TextAdventure.Lua.Operator

/-! Names, blocks and assignments. A name is a local of its function, a local of a function around
it, or a field of the table that holds the globals. A local that a function uses from outside is
taken out of the registers when its block is left, whichever way that happens. -/

namespace TextAdventure.Lua

/-! ## Names -/

namespace Draft

/-- The register of the innermost local of a name. -/
def register? (d : Draft) (name : Bytes) : Option Nat :=
  (d.locals.findIdx? fun l => l.name = name).map fun place => d.locals.length - 1 - place

/-- Gives a function one more outer variable, and says which it is. -/
def addOuter (d : Draft) (o : Outer) : Form × Draft :=
  (.outer d.code.outers.size, { d with code := { d.code with outers := d.code.outers.push o } })

/-- The block that a local belongs to is used by a function. -/
def captureIn (register : Nat) : List Block → List Block
  | [] => []
  | b :: rest =>
    if b.level ≤ register then { b with captured := true } :: rest
    else b :: captureIn register rest

/-- Finds a name in functions, the innermost first. What one of them has from further out is an
outer variable of it from then on. -/
def find (name : Bytes) : List Draft → Option Form × List Draft
  | [] => (none, [])
  | d :: around =>
    match d.register? name, d.code.outers.findIdx? fun o => o.name = name with
    | some r, _ => (some (.own r), d :: around)
    | none, some u => (some (.outer u), d :: around)
    | none, none =>
      match find name around with
      | (some (.own r), a :: around) =>
        let (form, d) := d.addOuter ⟨name, true, r⟩
        (some form, d :: { a with blocks := captureIn r a.blocks } :: around)
      | (some (.outer u), around) =>
        let (form, d) := d.addOuter ⟨name, false, u⟩
        (some form, d :: around)
      | (_, around) => (none, d :: around)

/-- The name of a variable that is constant. -/
def constantName? : Form → List Draft → Option Bytes
  | _, [] => none
  | .own r, d :: _ =>
    match d.locals[d.locals.length - 1 - r]? with
    | some l => if l.isConstant then some l.name else none
    | none => none
  | .outer u, d :: around =>
    match d.code.outers[u]? with
    | some o => constantName? (if o.own then .own o.place else .outer o.place) around
    | none => none
  | _, _ => none

end Draft

namespace Writing

/-- Finds a name. A function may have no more than 255 outer variables. -/
def found (name : Bytes) : Writing (Option Form) := do
  let w ← get
  let (form, drafts) := Draft.find name w.drafts
  set { w with drafts }
  match drafts.reverse.find? fun d => 255 < d.code.outers.size with
  | some d => refuse (.tooMany "upvalues" 255 d.firstLine)
  | none => return form

/-- The variable of a name. -/
def variableOf (name : Bytes) : Writing Term := do
  match ← found name with
  | some form => return { form }
  | none =>
    match ← found "_ENV" with
    | some form => indexed (← placeOrOuter { form }) { form := .constant (.text name) }
    | none => return { form := .constant .nil }

/-- Constants cannot be assigned to. -/
def writable (target : Term) : Writing Unit := do
  match Draft.constantName? target.form (← get).drafts with
  | some name =>
    throw { fault := .constantTarget name, line := some (← line), near := none }
  | none => return ()

/-! ## Blocks -/

/-- Settles a jump out of a loop that has been left. -/
def settleDeparture (b : Block) (target : Nat) (d : Departure) : Writing Unit := do
  if d.closes || (b.captured && b.level < d.level) then
    patch d.place (.close b.level)
    patch (d.place + 1) (.jump target)
  else patch d.place (.jump target)

/-- Hands a jump out of a loop on to the block around the one that it has left. -/
def passDeparture (b : Block) (d : Departure) : Writing Unit :=
  edit fun draft =>
    let d := { d with closes := d.closes || (b.captured && b.level < d.level), level := b.level }
    match draft.blocks with
    | outer :: rest =>
      { draft with blocks := { outer with departures := outer.departures ++ [d] } :: rest }
    | [] => draft

/-- Leaves the innermost block, and says what it was. -/
def closeBlock : Writing Block := do
  match (← draft).blocks with
  | [] => return { isLoop := false, level := 0 }
  | b :: outer =>
    if b.captured ∧ ¬outer.isEmpty then emit_ (.close b.level)
    edit fun d => { d with free := b.level, blocks := outer }
    hide b.level
    if b.isLoop then
      if !b.departures.isEmpty then
        let target ← landing
        b.departures.forM (settleDeparture b target)
    else b.departures.forM (passDeparture b)
    return b

/-- Jumps out of the innermost loop. There is room for an instruction before the jump. -/
def leaveLoop : Writing Unit := do
  if !((← draft).blocks.any (·.isLoop)) then refuse .noLoop
  advance
  let place ← jump
  emit_ (.close 0)
  edit fun d =>
    match d.blocks with
    | b :: rest =>
      let departure : Departure := { place, level := d.locals.length, closes := false }
      { d with blocks := { b with departures := b.departures ++ [departure] } :: rest }
    | [] => d

/-- Finishes the innermost function, and gives the place of its code. -/
def finishFunction : Writing Nat := do
  emit_ (.give (← level) (some 0))
  let _ ← closeBlock
  let w ← get
  set { w with drafts := w.drafts.drop 1, codes := w.codes.push (← draft).code }
  return w.codes.size

/-! ## Values and their places -/

/-- Takes so many values of a call or of the rest of the arguments. -/
def takeMany (t : Term) (count : Option Nat) : Writing Unit := do
  match t.form with
  | .call place =>
    match ← instruction place with
    | .call function arguments _ => patch place (.call function arguments count)
    | _ => return ()
  | .rest place =>
    patch place (.rest (← draft).free count)
    reserve 1
  | _ => return ()

/-- Fits the values of expressions, of which there are `given`, to `wanted` places. All but the last
expression have been placed. -/
def adjust (wanted given : Nat) (last : Term) : Writing Unit := do
  let missing := wanted - given
  needRegisters missing
  if last.isMany then takeMany last (some (wanted + 1 - given))
  else
    if last.form ≠ .nothing then discard (placeNext last)
    if 0 < missing then loadNil (← draft).free missing
  if 0 < missing then reserve missing
  else edit fun d => { d with free := d.free - (given - wanted) }

/-- Assigns the value of the last register in use. -/
def storeLast (target : Term) : Writing Unit := do
  store target { form := .register ((← draft).free - 1) }

/-- A target whose object or key is the variable `v`, which is a target too, uses a copy of it. -/
def useCopy (v : Form) (copy : Nat) (target : Term) : Term :=
  match target.form, v with
  | .field u key, .outer o =>
    if u = o then { target with form := .index copy (.constant (.text key)) } else target
  | .index object key, .own r =>
    { target with
      form := .index (if object = r then copy else object)
        (if key = .register r then .register copy else key) }
  | _, _ => target

/-- Keeps a copy of a variable that is assigned to, if targets before it use it. -/
def keepCopy (v : Form) (before : List Term) : Writing (List Term) := do
  let copy := (← draft).free
  let targets := before.map (useCopy v copy)
  if targets = before then return before
  else
    match v with
    | .own r => emit_ (.move copy r)
    | .outer u => emit_ (.getOuter copy u)
    | _ => pure ()
    reserve 1
    return targets

/-! ## Tables -/

/-- A table that is being filled: the items that have been put into it, those that wait in
registers, the last of which may not be placed yet, and the other fields. -/
structure Filling where
  table : Nat
  most : Nat
  last : Term := { form := .nothing }
  waiting : Nat := 0
  filled : Nat := 0
  fields : Nat := 0

/-- How many items may wait, when so many registers are free. -/
def mostWaiting (free : Nat) : Nat :=
  if 160 ≤ free then free / 5 else if 80 ≤ free then 10 else 1

/-- Puts the items that wait into the table. -/
def flush (f : Filling) (count : Option Nat) : Writing Unit := do
  emit_ (.fill f.table count f.filled)
  edit fun d => { d with free := f.table + 1 }

/-- Places the last item, if there is one, before another one is read. -/
def placeItem (f : Filling) : Writing Filling := do
  if f.last.form = .nothing then return f
  else
    discard (placeNext f.last)
    let f := { f with last := { form := .nothing } }
    if f.most ≤ f.waiting then
      flush f (some f.waiting)
      return { f with filled := f.filled + f.waiting, waiting := 0 }
    else return f

/-- Puts the last items into the table. The values of a last item that may have any number of them
are not counted. -/
def finishTable (f : Filling) : Writing Filling := do
  if f.waiting = 0 then return f
  else if f.last.isMany then
    takeMany f.last none
    flush f none
    return { f with filled := f.filled + f.waiting - 1 }
  else
    if f.last.form ≠ .nothing then discard (placeNext f.last)
    flush f (some f.waiting)
    return { f with filled := f.filled + f.waiting }

end Writing

end TextAdventure.Lua
