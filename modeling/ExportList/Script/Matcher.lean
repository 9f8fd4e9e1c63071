import ExportList.Script.Letter

/-!
The regular expressions that can be compiled.  Literals are compiled for a matcher of its own
dialect, so what counts here is that dialect: sets hold at least one member, letters after a
backslash are escapes that must be known, references name closed groups, nothing but an item can be
repeated and only once, and what looks behind has one width.
-/

set_option autoImplicit false

namespace ExportList.Script.Matcher

/-- A code point of a pattern, or one after a backslash. -/
inductive Atom where
  | plain (n : Nat)
  | escaped (n : Nat)
deriving DecidableEq, Repr

/-- The atoms of a pattern; a backslash cannot be last. -/
def atoms? : List Nat → Option (List Atom)
  | [] => some []
  | [n] => if n = 0x5C then none else some [.plain n]
  | n :: m :: rest =>
    if n = 0x5C then (atoms? rest).map (.escaped m :: ·)
    else (atoms? (m :: rest)).map (.plain n :: ·)

/-- The least and the greatest number of code points that something matches. -/
structure Width where
  least : Nat
  most : Nat
deriving DecidableEq, Repr

namespace Width

/-- Widths count no further than this. -/
def limit : Nat := Nat.pow 2 64

def one : Width := ⟨1, 1⟩

def zero : Width := ⟨0, 0⟩

def add (a b : Width) : Width := ⟨min (a.least + b.least) limit, min (a.most + b.most) limit⟩

def either (a b : Width) : Width := ⟨min a.least b.least, max a.most b.most⟩

end Width

/-- What matters of an item when a quantifier follows it. -/
inductive Standing where
  | anchor
  | repeated
  | ordinary
deriving DecidableEq, Repr

structure Item where
  standing : Standing
  width : Width
deriving DecidableEq, Repr

/-- What has been read so far: the groups with their widths (none while open), the named groups, the
number of groups before the outermost look behind, the groups that conditions ask for, and the
flags that hold everywhere. -/
structure State where
  rest : List Atom
  groups : List (Option Width) := []
  names : List (List Nat × Nat) := []
  behind : Option Nat := none
  asked : List Nat := []
  verbose : Bool := false
  ascii : Bool := false
  unicode : Bool := false

/-- Reading fails without a reason. -/
abbrev Read := StateT State Option

def reject {α : Type} : Read α := fun _ => none

def peek : Read (Option Atom) := fun s => some (s.rest.head?, s)

def next : Read (Option Atom) := fun s => some (s.rest.head?, { s with rest := s.rest.drop 1 })

def accept (n : Nat) : Read Bool := fun s =>
  match s.rest with
  | .plain m :: rest => if m = n then some (true, { s with rest := rest }) else some (false, s)
  | _ => some (false, s)

def code (c : Char) : Nat := c.toNat

def isDigitCode (n : Nat) : Bool := 0x30 ≤ n && n ≤ 0x39

def isOctalCode (n : Nat) : Bool := 0x30 ≤ n && n ≤ 0x37

def hexCode? (n : Nat) : Option Nat := if n < 0x80 then hexValue? (Char.ofNat n) else none

def isLetterCode (n : Nat) : Bool := (0x41 ≤ n && n ≤ 0x5A) || (0x61 ≤ n && n ≤ 0x7A)

def takeWhile (isMember : Nat → Bool) : (count : Nat) → Read (List Nat)
  | 0 => pure []
  | count + 1 => do
    match ← peek with
    | some (.plain n) =>
      if isMember n then
        let _ ← next
        return n :: (← takeWhile isMember count)
      else return []
    | _ => return []

def number (base : Nat) (digits : List Nat) : Nat :=
  digits.foldl (fun value n => value * base + (hexCode? n).getD 0) 0

def hexNumber (count : Nat) : Read Nat := do
  let digits ← takeWhile (fun n => (hexCode? n).isSome) count
  if digits.length = count then return number 16 digits else reject

/-- What an escape stands for inside a set: a code point or a class. -/
def setEscape (n : Nat) : Read (Option Nat) := do
  if n = code 'a' then return some 7
  else if n = code 'b' then return some 8
  else if n = code 'f' then return some 12
  else if n = code 'n' then return some 10
  else if n = code 'r' then return some 13
  else if n = code 't' then return some 9
  else if n = code 'v' then return some 11
  else if n = code 'd' || n = code 'D' || n = code 's' || n = code 'S' || n = code 'w' ||
      n = code 'W' then
    return none
  else if n = code 'x' then return some (← hexNumber 2)
  else if n = code 'u' then return some (← hexNumber 4)
  else if n = code 'U' then
    let value ← hexNumber 8
    if value < 0x110000 then return some value else reject
  else if isOctalCode n then
    let value := number 8 (n :: (← takeWhile isOctalCode 2))
    if value ≤ 0xFF then return some value else reject
  else if isDigitCode n || isLetterCode n then reject
  else return some n

def isClosed (groups : List (Option Width)) (group : Nat) : Bool :=
  ((groups[group - 1]?).getD none).isSome

/-- A look behind can refer only to closed groups from before it. -/
def checkBehind (group : Nat) : Read Unit := fun s =>
  match s.behind with
  | none => some ((), s)
  | some before =>
    if isClosed s.groups group && group < before then some ((), s) else none

def reference (group : Nat) : Read Item := fun s =>
  match (s.groups[group - 1]?).getD none with
  | none => none
  | some width => (checkBehind group s).map fun r => (⟨.ordinary, width⟩, r.2)

def escape (n : Nat) : Read Item := do
  if n = code 'A' || n = code 'b' || n = code 'B' || n = code 'Z' then return ⟨.anchor, .zero⟩
  else if n = code '0' then
    let _ ← takeWhile isOctalCode 2
    return ⟨.ordinary, .one⟩
  else if isDigitCode n then
    match ← peek with
    | some (.plain m) =>
      if isDigitCode m then
        let _ ← next
        match ← peek with
        | some (.plain k) =>
          -- Three octal digits are a code point, other digits the number of a group.
          if isOctalCode n && isOctalCode m && isOctalCode k then
            let _ ← next
            if number 8 [n, m, k] ≤ 0xFF then return ⟨.ordinary, .one⟩ else reject
          else reference (number 10 [n, m])
        | _ => reference (number 10 [n, m])
      else reference (number 10 [n])
    | _ => reference (number 10 [n])
  else
    let _ ← setEscape n
    return ⟨.ordinary, .one⟩

/-- A member of a set: a code point, or none for a class. -/
def setMember : Atom → Read (Option Nat)
  | .plain n => return some n
  | .escaped n => setEscape n

/-- The members of a set up to its closing bracket; a bracket that comes first is a member. -/
def setMembers : (fuel : Nat) → (isFirst : Bool) → Read Unit
  | 0, _ => reject
  | fuel + 1, isFirst => do
    match ← next with
    | none => reject
    | some atom =>
      if atom = .plain (code ']') && !isFirst then return ()
      else
        let low ← setMember atom
        if ← accept (code '-') then
          match ← next with
          | none => reject
          | some bound =>
            -- A dash before the closing bracket is a member.
            if bound = .plain (code ']') then return ()
            else
              let high ← setMember bound
              match low, high with
              | some low, some high => if high < low then reject else setMembers fuel false
              | _, _ => reject
        else setMembers fuel false

/-- The bounds that a quantifier gives, if the code point begins one; `none` for an open end. -/
def quantifier (n : Nat) : Read (Option (Nat × Option Nat)) := fun s =>
  if n = code '?' then some (some (0, some 1), s)
  else if n = code '*' then some (some (0, none), s)
  else if n = code '+' then some (some (1, none), s)
  else
    let digits : Read (List Nat) := takeWhile isDigitCode s.rest.length
    let bounds : Read (Option (Nat × Option Nat)) := do
      if (← peek) = some (.plain (code '}')) then return none
      let low ← digits
      let high ← if ← accept (code ',') then digits else pure low
      if ← accept (code '}') then
        let least := number 10 low
        let most := if high.isEmpty then none else some (number 10 high)
        if least ≥ 4294967295 || most.getD 0 ≥ 4294967295 || least > most.getD least then reject
        else return some (least, most)
      else return none
    -- Braces that hold no bounds stand for themselves.
    match bounds s with
    | none => none
    | some (none, _) => some (none, s)
    | some (some found, s') => some (some found, s')

def repeatItem (item : Item) (least : Nat) (most : Option Nat) : Item :=
  let highest := match most with
    | some most => item.width.most * most
    | none => if item.width.most = 0 then 0 else Width.limit
  ⟨.repeated, ⟨min (item.width.least * least) Width.limit, min highest Width.limit⟩⟩

/-- Code points up to a closing one, which is consumed; at least one. -/
def nameUntil (close : Nat) : (fuel : Nat) → List Nat → Read (List Nat)
  | 0, _ => reject
  | fuel + 1, name => do
    match ← next with
    | none => reject
    | some (.plain n) =>
      if n = close then if name.isEmpty then reject else return name.reverse
      else nameUntil close fuel (n :: name)
    | some (.escaped n) => nameUntil close fuel (n :: 0x5C :: name)

def isGroupName (name : List Nat) : Bool :=
  match name with
  | [] => false
  | n :: rest =>
    let plain := fun n => n ≠ 0x24 && n ≠ 0x5C
    isNameStart n && plain n && rest.all fun n => isNamePart n && plain n

def isFlag (n : Nat) : Bool :=
  [code 'i', code 'L', code 'm', code 's', code 'x', code 'a', code 't', code 'u'].contains n

/-- Flags after the opening of a group, up to the code point that ends them. -/
def flagsUntil (ends : List Nat) : (fuel : Nat) → (flag : Nat) → List Nat → Read (List Nat × Nat)
  | 0, _, _ => reject
  | fuel + 1, flag, flags => do
    if !isFlag flag then reject
    else
      match ← next with
      | some (.plain n) =>
        if ends.contains n then return (flag :: flags, n)
        else flagsUntil ends fuel n (flag :: flags)
      | _ => reject

def openGroup (name : Option (List Nat)) : Read Nat := fun s =>
  let group := s.groups.length + 1
  let names := match name with
    | none => some s.names
    | some name =>
      if s.names.any fun entry => entry.1 = name then none else some ((name, group) :: s.names)
  names.map fun names => (group, { s with groups := s.groups ++ [none], names := names })

def closeGroup (group : Nat) (width : Width) : Read Unit := fun s =>
  some ((), { s with groups := s.groups.set (group - 1) (some width) })

def closing : Read Unit := do
  if ← accept (code ')') then return () else reject

/-- The inline flags of a group; none if they are meant for the whole pattern. -/
def inlineFlags (char : Nat) : Read (Option (List Nat × List Nat)) := do
  let fuel := (← get).rest.length + 1
  let (added, stop) ←
    if char = code '-' then pure ([], char)
    else flagsUntil [code ')', code '-', code ':'] fuel char []
  if added.contains (code 'L') ||
      (added.contains (code 'a') && added.contains (code 'u')) then reject
  else if stop = code ')' then
    -- Flags with nothing behind them are meant for the whole pattern.
    modify fun s =>
      { s with
        verbose := s.verbose || added.contains (code 'x')
        ascii := s.ascii || added.contains (code 'a')
        unicode := s.unicode || added.contains (code 'u') }
    return none
  else if added.contains (code 't') then reject
  else
    let removed ←
      if stop = code '-' then
        match ← next with
        | some (.plain n) => (·.1) <$> flagsUntil [code ':'] fuel n []
        | _ => reject
      else pure []
    let isFixed := fun n => n = code 'a' || n = code 'u' || n = code 'L' || n = code 't'
    if removed.any isFixed || removed.any added.contains then reject
    else return some (added, removed)

def skipComment : (fuel : Nat) → Read Unit
  | 0 => reject
  | fuel + 1 => do
    match ← next with
    | none => reject
    | some atom => if atom = .plain (code ')') then return () else skipComment fuel

def skipLine : (fuel : Nat) → Read Unit
  | 0 => return ()
  | fuel + 1 => do
    match ← next with
    | none => return ()
    | some atom => if atom = .plain 10 then return () else skipLine fuel

/-- The width of a choice between sequences, whether blanks are skipped in it, and whether it is the
whole pattern. -/
abbrev Choice := (verbose isWhole : Bool) → Read Width

def lookAround (choice : Choice) (verbose isBehind : Bool) : Read Item := do
  let before := (← get).behind
  if isBehind && before.isNone then
    modify fun s => { s with behind := some (s.groups.length + 1) }
  let width ← choice verbose false
  if isBehind then modify fun s => { s with behind := before }
  closing
  -- A look behind has to know how far to go back.
  if isBehind && width.least ≠ width.most then reject
  else return ⟨.ordinary, .zero⟩

/-- A group whose contents are read by the given choice. -/
def groupBody (choice : Choice) (verbose : Bool) (capture : Bool) (name : Option (List Nat)) :
    Read Item := do
  if capture then
    let group ← openGroup name
    let width ← choice verbose false
    closing
    closeGroup group width
    return ⟨.ordinary, width⟩
  else
    let width ← choice verbose false
    closing
    return ⟨.ordinary, width⟩

def conditionGroup (name : List Nat) : Read Nat := do
  if isGroupName name then
    match (← get).names.find? fun entry => entry.1 = name with
    | some entry => return entry.2
    | none => reject
  else if name.all isDigitCode then
    let group := number 10 name
    if group = 0 then reject
    else
      modify fun s => { s with asked := group :: s.asked }
      return group
  else reject

/-- What follows an opening parenthesis; none for what is no item.  `sequence` reads one
alternative. -/
def group (choice : Choice) (sequence : Bool → Read Width) (verbose isStart : Bool) :
    Read (Option Item) := do
  if !(← accept (code '?')) then some <$> groupBody choice verbose true none
  else
    let fuel := (← get).rest.length + 1
    match ← next with
    | some (.plain n) =>
      if n = code 'P' then
        if ← accept (code '<') then
          let name ← nameUntil (code '>') fuel []
          if isGroupName name then some <$> groupBody choice verbose true (some name) else reject
        else if ← accept (code '=') then
          let name ← nameUntil (code ')') fuel []
          match (← get).names.find? fun entry => entry.1 = name with
          | some entry => some <$> reference entry.2
          | none => reject
        else reject
      else if n = code ':' || n = code '>' then some <$> groupBody choice verbose false none
      else if n = code '#' then
        skipComment fuel
        return none
      else if n = code '=' || n = code '!' then some <$> lookAround choice verbose false
      else if n = code '<' then
        match ← next with
        | some (.plain m) =>
          if m = code '=' || m = code '!' then some <$> lookAround choice verbose true else reject
        | _ => reject
      else if n = code '(' then
        let asked ← conditionGroup (← nameUntil (code ')') fuel [])
        checkBehind asked
        let yes ← sequence verbose
        let no ← if ← accept (code '|') then sequence verbose else pure .zero
        closing
        return some ⟨.ordinary, yes.either no⟩
      else if isFlag n || n = code '-' then
        match ← inlineFlags n with
        | none => if isStart then return none else reject
        | some (added, removed) =>
          let inner := (verbose || added.contains (code 'x')) && !removed.contains (code 'x')
          some <$> groupBody choice inner false none
      else reject
    | _ => reject

def isVerboseBlank (n : Nat) : Bool := n = 0x20 || (0x09 ≤ n && n ≤ 0x0D)

/-- The width of a sequence, given the items read so far, newest first.  `isWhole` marks the first
alternative of the whole pattern. -/
def sequence (choice : Choice) (isWhole : Bool) :
    (fuel : Nat) → (verbose : Bool) → List Item → Read Width
  | 0, _, _ => reject
  | fuel + 1, verbose, items => do
    let done : Read Width := return items.foldl (fun width item => width.add item.width) .zero
    let continue' := fun item => sequence choice isWhole fuel verbose (item :: items)
    match ← peek with
    | none => done
    | some (.escaped n) =>
      let _ ← next
      continue' (← escape n)
    | some (.plain n) =>
      if n = code '|' || n = code ')' then done
      else
        let _ ← next
        if verbose && isVerboseBlank n then sequence choice isWhole fuel verbose items
        else if verbose && n = code '#' then
          skipLine (← get).rest.length
          sequence choice isWhole fuel verbose items
        else if n = code '[' then
          let _ ← accept (code '^')
          setMembers ((← get).rest.length + 1) true
          continue' ⟨.ordinary, .one⟩
        else if n = code '?' || n = code '*' || n = code '+' || n = code '{' then
          match ← quantifier n with
          | none => continue' ⟨.ordinary, .one⟩
          | some (least, most) =>
            match items with
            | [] => reject
            | item :: before =>
              if item.standing = .ordinary then
                if !(← accept (code '?')) then
                  let _ ← accept (code '+')
                sequence choice isWhole fuel verbose (repeatItem item least most :: before)
              else reject
        else if n = code '(' then
          let inner := fun verbose => sequence choice false fuel verbose []
          match ← group choice inner verbose (isWhole && items.isEmpty) with
          | some item => continue' item
          | none =>
            let global := (← get).verbose
            sequence choice isWhole fuel (verbose || (isWhole && global)) items
        else if n = code '^' || n = code '$' then continue' ⟨.anchor, .zero⟩
        else continue' ⟨.ordinary, .one⟩

def alternatives (one : Bool → Read Width) (isWhole : Bool) :
    (fuel : Nat) → Bool → Width → Read Width
  | 0, _, width => return width
  | fuel + 1, verbose, width => do
    if ← accept (code '|') then
      let global := (← get).verbose
      let verbose := if isWhole then global else verbose
      alternatives one isWhole fuel verbose (width.either (← one verbose))
    else return width

def choice (size : Nat) : (depth : Nat) → Choice
  | 0, _, _ => reject
  | depth + 1, verbose, isWhole => do
    let inner := choice size depth
    let first ← sequence inner isWhole (size + 1) verbose []
    alternatives (fun verbose => sequence inner false (size + 1) verbose []) isWhole
      size verbose first

def compiles (pattern : List Nat) : Bool :=
  match atoms? pattern with
  | none => false
  | some atoms =>
    match choice atoms.length (atoms.length + 1) false true { rest := atoms } with
    | none => false
    | some (_, s) =>
      s.rest.isEmpty && !(s.ascii && s.unicode) && s.asked.all fun group => group ≤ s.groups.length

/-- What replaces an escaped code point past the sixteen-bit range. -/
def astralSubstitute : Nat := 0xFFFF

def bracedDigits : List Nat → Option (List Nat × List Nat)
  | [] => none
  | n :: rest =>
    if n = code '}' then some ([], rest)
    else if (hexCode? n).isSome then (bracedDigits rest).map fun r => (n :: r.1, r.2)
    else none

/-- The code point that an escape by number at the head of a pattern stands for, and the rest. -/
def numberedEscape? : List Nat → Option (Nat × List Nat)
  | 0x5C :: 0x75 :: 0x7B :: rest =>
    match bracedDigits rest with
    | some (d :: ds, rest) => some (number 16 (d :: ds), rest)
    | _ => none
  | 0x5C :: 0x75 :: a :: b :: c :: d :: rest =>
    if [a, b, c, d].all fun n => (hexCode? n).isSome then some (number 16 [a, b, c, d], rest)
    else none
  | _ => none

/-- A pattern with every escape by number replaced; a number past the end of Unicode is rejected. -/
def unescape : (fuel : Nat) → List Nat → Option (List Nat)
  | 0, pattern => some pattern
  | _ + 1, [] => some []
  | fuel + 1, n :: rest =>
    match numberedEscape? (n :: rest) with
    | some (value, rest) =>
      if value > 0x10FFFF then none
      else (unescape fuel rest).map ((if value ≤ 0xFFFF then value else astralSubstitute) :: ·)
    | none => (unescape fuel rest).map (n :: ·)

/-- Each surrogate pair of a pattern replaced by one code point. -/
def joinPairs : List Nat → List Nat
  | [] => []
  | [n] => [n]
  | n :: m :: rest =>
    if 0xD800 ≤ n && n < 0xDC00 && 0xDC00 ≤ m && m < 0xE000 then astralSubstitute :: joinPairs rest
    else n :: joinPairs (m :: rest)

def isAccepted (pattern : List Nat) : Bool :=
  match unescape pattern.length pattern with
  | none => false
  | some plain => compiles (joinPairs plain)

end ExportList.Script.Matcher
