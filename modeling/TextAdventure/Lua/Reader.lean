import TextAdventure.Lua.Block

/-! Reading programs. The reader writes code while it reads, so a program is gone through once. -/

namespace TextAdventure.Lua

namespace Writing

def value? : Token → Option Value
  | .mark .nilWord => some .nil
  | .mark .trueWord => some (.bool true)
  | .mark .falseWord => some (.bool false)
  | .number n => some (.number n)
  | .text bytes => some (.text bytes)
  | _ => none

/-- Whether a block ends at the token. -/
def endsBlock : Token → Bool
  | .mark m => [.elseWord, .elseifWord, .endWord, .untilWord].contains m
  | .eof => true
  | _ => false

/-- The names of parameters, after `before` others. -/
def parameters : Nat → Nat → Writing (List Bytes)
  | 0, _ => refuse .tooDeep
  | fuel + 1, before => do
    match (← get).here.token with
    | .name _ =>
      let n ← newName before
      if ← accept .comma then return n :: (← parameters fuel (before + 1)) else return [n]
    | _ => refuse .parameterExpected

/-- The names of locals, after `before` others. -/
def names : Nat → Nat → Writing (List Bytes)
  | 0, _ => refuse .tooDeep
  | fuel + 1, before => do
    let n ← newName before
    if ← accept .comma then return n :: (← names fuel (before + 1)) else return [n]

/-- A field after the point or the colon that the reader stands at. -/
def fieldOf (object : Term) : Writing Term := do
  let object ← placeOrOuter object
  advance
  indexed object { form := .constant (.text (← name)) }

/-- The fields after the name in the head of a function; after a colon there is one more, which
makes it a method. -/
def functionTarget : Nat → Term → Writing (Term × Bool)
  | 0, _ => refuse .tooDeep
  | fuel + 1, target => do
    if ← at? .dot then functionTarget fuel (← fieldOf target)
    else if ← at? .colon then return (← fieldOf target, true)
    else return (target, false)

mutual

/-- An expression whose operators hold on to their left more tightly than `bound`. -/
def expr : Nat → Nat → Writing Term
  | 0, _ => refuse .tooDeep
  | fuel + 1, bound => nested do
    match Sign.ofToken? (← get).here.token with
    | some op =>
      let at_ ← line
      advance
      let operand ← expr fuel Sign.binding
      operators fuel bound (← signed op operand at_)
    | none => operators fuel bound (← simple fuel)

/-- The operators that follow a left operand. -/
def operators : Nat → Nat → Term → Writing Term
  | 0, _, _ => refuse .tooDeep
  | fuel + 1, bound, left => do
    match Infix.ofToken? (← get).here.token with
    | none => return left
    | some op =>
      if op.binding.1 ≤ bound then return left
      else
        let at_ ← line
        advance
        let left ← leftOf op left
        let right ← expr fuel op.binding.2
        operators fuel bound (← infixed op left right at_)

def simple : Nat → Writing Term
  | 0 => refuse .tooDeep
  | fuel + 1 => do
    let token := (← get).here.token
    match value? token with
    | some v =>
      advance
      return { form := .constant v }
    | none =>
      match token with
      | .mark .ellipsis =>
        if !(← draft).code.takesRest then refuse .noRest
        let place ← emit (.rest 0 (some 1))
        advance
        return { form := .rest place }
      | .mark .braceOpen => table fuel
      | .mark .functionWord =>
        advance
        functionBody fuel false (← line)
      | _ => suffixed fuel

/-- A name or an expression in parentheses, with what follows it. -/
def suffixed : Nat → Writing Term
  | 0 => refuse .tooDeep
  | fuel + 1 => do
    match (← get).here.token with
    | .name n =>
      advance
      suffixes fuel (← variableOf n)
    | .mark .parenOpen =>
      let first ← line
      advance
      let inner ← expr fuel 0
      close .parenClose .parenOpen first
      suffixes fuel (← fetch inner)
    | _ => refuse .unexpected

/-- The fields, keys and calls that follow an expression. -/
def suffixes : Nat → Term → Writing Term
  | 0, _ => refuse .tooDeep
  | fuel + 1, object => do
    match (← get).here.token with
    | .mark .dot => suffixes fuel (← fieldOf object)
    | .mark .bracketOpen =>
      let object ← placeOrOuter object
      suffixes fuel (← indexed object (← key fuel))
    | .mark .colon =>
      advance
      let n ← name
      suffixes fuel (← arguments fuel (← methodOf object n))
    | .mark .parenOpen | .mark .braceOpen | .text _ =>
      suffixes fuel (← arguments fuel (← placeNext object))
    | _ => return object

/-- A key in brackets. -/
def key : Nat → Writing Term
  | 0 => refuse .tooDeep
  | fuel + 1 => do
    advance
    let k ← expr fuel 0
    let k ← valueOf k
    require .bracketClose
    return k

/-- The call of a function, which is in the last register in use or, with its receiver, in the last
two. -/
def arguments : Nat → Term → Writing Term
  | 0, _ => refuse .tooDeep
  | fuel + 1, function => do
    let base :=
      match function.form with
      | .register r => r
      | _ => 0
    let first ← line
    let last ←
      match (← get).here.token with
      | .mark .parenOpen =>
        advance
        let last ←
          if ← at? .parenClose then pure { form := .nothing }
          else pure (← exprs fuel 1).2
        if last.isMany then takeMany last none
        close .parenClose .parenOpen first
        pure last
      | .mark .braceOpen => table fuel
      | .text bytes =>
        advance
        pure { form := .constant (.text bytes) }
      | _ => refuse .argumentsExpected
    if !last.isMany && last.form ≠ .nothing then discard (placeNext last)
    let free := (← draft).free
    let count := if last.isMany then none else some (free - (base + 1))
    let place ← emit (.call base count (some 1))
    setLine first
    edit fun d => { d with free := base + 1 }
    return { form := .call place }

/-- Expressions between commas, and how many they are. All but the last one are placed. -/
def exprs : Nat → Nat → Writing (Nat × Term)
  | 0, _ => refuse .tooDeep
  | fuel + 1, count => do
    let e ← expr fuel 0
    if ← accept .comma then
      discard (placeNext e)
      exprs fuel (count + 1)
    else return (count, e)

def table : Nat → Writing Term
  | 0 => refuse .tooDeep
  | fuel + 1 => do
    let first ← line
    let place ← emit (.newTable 0 0 0)
    let register := (← draft).free
    reserve 1
    require .braceOpen
    let f ← items fuel { table := register, most := mostWaiting (255 - (register + 1)) }
    close .braceClose .braceOpen first
    let f ← finishTable f
    patch place (.newTable register f.filled f.fields)
    return { form := .register register }

def items : Nat → Filling → Writing Filling
  | 0, _ => refuse .tooDeep
  | fuel + 1, f => do
    if ← at? .braceClose then return f
    else
      let f ← item fuel (← placeItem f)
      if ← accept .comma then items fuel f
      else if ← accept .semicolon then items fuel f
      else return f

def item : Nat → Filling → Writing Filling
  | 0, _ => refuse .tooDeep
  | fuel + 1, f => do
    let free := (← draft).free
    let token := (← get).here.token
    let name? : Option Bytes ←
      match token with
      | .name n => if (← peek) = .mark .assign then pure (some n) else pure none
      | _ => pure none
    match name? with
    | some n =>
      advance
      fieldItem fuel f free { form := .constant (.text n) }
    | none =>
      if token = .mark .bracketOpen then fieldItem fuel f free (← key fuel)
      else
        let last ← expr fuel 0
        return { f with last, waiting := f.waiting + 1 }

/-- The value of a field, from the equals sign on. The registers from `free` on are free again
afterwards. -/
def fieldItem : Nat → Filling → Nat → Term → Writing Filling
  | 0, _, _, _ => refuse .tooDeep
  | fuel + 1, f, free, k => do
    require .assign
    let target ← indexed { form := .register f.table } k
    store target (← expr fuel 0)
    edit fun d => { d with free }
    return { f with fields := f.fields + 1 }

/-- The parameters and the body of a function that starts at a line. -/
def functionBody : Nat → Bool → Nat → Writing Term
  | 0, _, _ => refuse .tooDeep
  | fuel + 1, isMethod, first => do
    modify fun w => { w with drafts := { firstLine := first } :: w.drafts }
    openBlock false
    require .parenOpen
    if isMethod then declare ["self"]
    let given ← do if ← at? .parenClose then pure [] else parameters fuel 0
    declare given
    let count ← level
    edit fun d => { d with code := { d.code with parameters := count } }
    reserve count
    require .parenClose
    statements fuel
    close .endWord .functionWord first
    let function ← finishFunction
    placeNext { form := .open (← emit (.closure 0 function)) }

/-- The statements up to the end of a block. -/
def statements : Nat → Writing Unit
  | 0 => refuse .tooDeep
  | fuel + 1 => do
    let token := (← get).here.token
    if endsBlock token then return ()
    else
      nested do
        statement fuel
        edit fun d => { d with free := d.locals.length }
      if token ≠ Token.mark .returnWord then statements fuel

def block : Nat → Writing Unit
  | 0 => refuse .tooDeep
  | fuel + 1 => do
    openBlock false
    statements fuel
    discard closeBlock

/-- A condition. Gives the jumps that are made when it counts as false. -/
def condition : Nat → Writing (List Nat)
  | 0 => refuse .tooDeep
  | fuel + 1 => do
    let t ← expr fuel 0
    return (← goIfTrue t).whenFalse

def statement : Nat → Writing Unit
  | 0 => refuse .tooDeep
  | fuel + 1 => do
    let first ← line
    match (← get).here.token with
    | .mark .semicolon => advance
    | .mark .ifWord => branches fuel first []
    | .mark .whileWord =>
      advance
      let start ← landing
      let skips ← condition fuel
      openBlock true
      require .doWord
      block fuel
      direct [← jump] start
      close .endWord .whileWord first
      discard closeBlock
      directHere skips
    | .mark .doWord =>
      advance
      block fuel
      close .endWord .doWord first
    | .mark .forWord => counting fuel first
    | .mark .repeatWord => repeating fuel first
    | .mark .functionWord =>
      advance
      let n ← name
      let (target, isMethod) ← functionTarget fuel (← variableOf n)
      let body ← functionBody fuel isMethod first
      writable target
      store target body
      setLine first
    | .mark .localWord =>
      advance
      if ← accept .functionWord then localFunction fuel
      else
        let declared ← names fuel 0
        let (given, last) ← do
          if ← accept .assign then exprs fuel 1 else pure (0, { form := .nothing })
        adjust declared.length given last
        declare declared
    | .mark .returnWord =>
      advance
      give fuel
      discard (accept .semicolon)
    | .mark .breakWord => leaveLoop
    | _ =>
      let e ← suffixed fuel
      if ← at? .assign then assignment fuel [e]
      else if ← at? .comma then assignment fuel [e]
      else
        match e.form with
        | .call _ => takeMany e (some 0)
        | _ => refuse .noStatement

/-- A condition with its branch, from `if` or `elseif` on, and what follows it. `exits` are jumps
behind all of them. -/
def branches : Nat → Nat → List Nat → Writing Unit
  | 0, _, _ => refuse .tooDeep
  | fuel + 1, first, exits => do
    advance
    let skips ← condition fuel
    require .thenWord
    block fuel
    let token := (← get).here.token
    let isLast := token ≠ Token.mark .elseWord && token ≠ Token.mark .elseifWord
    let exits ← if isLast then pure exits else pure (exits ++ [← jump])
    directHere skips
    if token = Token.mark .elseifWord then branches fuel first exits
    else
      if ← accept .elseWord then block fuel
      close .endWord .ifWord first
      directHere exits

/-- A loop with its condition at its end, which sees the locals of its body. -/
def repeating : Nat → Nat → Writing Unit
  | 0, _ => refuse .tooDeep
  | fuel + 1, first => do
    let start ← landing
    openBlock true
    openBlock false
    advance
    statements fuel
    close .untilWord .repeatWord first
    let again ← condition fuel
    let body ← closeBlock
    if body.captured then
      let exit ← jump
      directHere again
      emit_ (.close body.level)
      let again ← jump
      directHere [exit]
      direct [again] start
    else direct again start
    discard closeBlock

/-- A loop that counts. Its counter is constant. -/
def counting : Nat → Nat → Writing Unit
  | 0, _ => refuse .tooDeep
  | fuel + 1, first => do
    openBlock true
    advance
    let counter ← name
    if !(← at? .assign) then refuse .countExpected
    let base := (← draft).free
    limitLocals 3
    require .assign
    discard (placeNext (← expr fuel 0))
    require .comma
    discard (placeNext (← expr fuel 0))
    if ← accept .comma then discard (placeNext (← expr fuel 0))
    else
      emit_ (.load (base + 2) (.ofNat 1))
      reserve 1
    declare ["(for state)", "(for state)"]
    require .doWord
    let start ← emit (.startCount base 0)
    edit fun d => { d with free := d.free - 1 }
    openBlock false
    declare [counter] true
    reserve 1
    block fuel
    discard closeBlock
    discard landing
    let next ← emit (.nextCount base (start + 1))
    patch start (.startCount base (next + 1))
    setLine first
    close .endWord .forWord first
    discard closeBlock

/-- A function that is a local, from its name on. It can see itself. -/
def localFunction : Nat → Writing Unit
  | 0 => refuse .tooDeep
  | fuel + 1 => do
    let n ← newName 0
    let scope := (← draft).code.scopes.size
    declare [n]
    discard (functionBody fuel false (← line))
    edit fun d =>
      let first := d.code.instructions.size
      let scopes := d.code.scopes.modify scope fun s => { s with first }
      { d with code := { d.code with scopes } }

/-- What a function returns. A call alone takes the place of its function. -/
def give : Nat → Writing Unit
  | 0 => refuse .tooDeep
  | fuel + 1 => do
    let first ← level
    let token := (← get).here.token
    if endsBlock token || token = Token.mark .semicolon then emit_ (.give first (some 0))
    else
      let (count, last) ← exprs fuel 1
      if last.isMany then
        takeMany last none
        match last.form, count with
        | .call place, 1 =>
          match ← instruction place with
          | .call function arguments _ => patch place (.tailCall function arguments)
          | _ => pure ()
        | _, _ => pure ()
        emit_ (.give first none)
      else if count = 1 then
        let (r, _) ← register last
        emit_ (.give r (some 1))
      else
        discard (placeNext last)
        emit_ (.give first (some count))

/-- The rest of an assignment to targets, the last one first. -/
def assignment : Nat → List Term → Writing Unit
  | 0, _ => refuse .tooDeep
  | _ + 1, [] => return ()
  | fuel + 1, target :: before => do
    match target.form with
    | .own _ | .outer _ | .field .. | .index .. => pure ()
    | _ => refuse .noStatement
    writable target
    if ← accept .comma then
      let more ← suffixed fuel
      let targets ← keepCopy more.form (target :: before)
      nested (assignment fuel (more :: targets))
    else
      require .assign
      let (given, last) ← exprs fuel 1
      if given = before.length + 1 then
        store target (← single last)
        before.forM storeLast
      else
        adjust (before.length + 1) given last
        (target :: before).forM storeLast

end

/-- A program, up to the end of its source. -/
def program (fuel : Nat) : Writing Nat := do
  check (← get).here
  openBlock false
  statements fuel
  if (← get).here.token = .eof then finishFunction else refuse .endExpected

end Writing

/-- Reads the program that the source spells. Its functions are added to those of other programs;
the place of its main function is given, too. No reading goes deeper than ten levels for each
token. -/
def readProgram (codes : Array Code) (source : Bytes) : Except Refusal (Nat × Array Code) :=
  match Lexeme.readAll source with
  | [] => .ok (0, codes)
  | here :: ahead =>
    let main : Draft :=
      { firstLine := 0, code := { takesRest := true, outers := #[⟨"_ENV", true, 0⟩] } }
    ((Writing.program (10 * ahead.length + 100)).run { here, ahead, drafts := [main], codes }).map
      fun (place, w) => (place, w.codes)

end TextAdventure.Lua
