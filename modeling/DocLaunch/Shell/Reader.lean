import DocLaunch.Shell.Source

namespace DocLaunch.Shell

open Source

def special? : Char → Option Parameter
  | '@' => some .each
  | '*' => some .joined
  | '#' => some .count
  | '?' => some .status
  | '$' => some .process
  | '!' => some .lastJob
  | '-' => some .flags
  | c => if c.isDigit then some (.position (c.toNat - '0'.toNat)) else none

/-- What ends text in which dollar signs, backquotes and backslashes are special. -/
inductive Ending where
  /-- A double quote. -/
  | quote
  /-- A closing brace outside of further double quotes. -/
  | brace
  /-- The end of the text. -/
  | nothing
  /-- Two closing parentheses outside of further parentheses. -/
  | parentheses (depth : Nat)
  deriving DecidableEq, Repr

def unterminated : String := "Syntax error: Unterminated quoted string"

def readLiteral : Reading (List Char) := do
  let s ← get
  let text := s.rest.takeWhile (· != '\'')
  match s.rest.drop text.length with
  | [] => throw unterminated
  | _ :: rest =>
    set { s with rest, line := s.line + text.count '\n' }
    return text

/-- Characters that mean something in double quotes, or begin a line. -/
def signsInQuotes : List Char := ['\\', '$', '\x60', '"', '\x7d', '(', ')', '\n']

/-- Characters that mean something outside of quotes within a word. -/
def signsInWords : List Char := ['\'', '"', '\\', '$', '\x60']

/-- The text between backquotes, without the backslashes that protect characters in it. -/
def readBackquoted (quoted : Bool) : Nat → Reading (List Char)
  | 0 => throw "Syntax error: EOF in backquote substitution"
  | n + 1 => do
    match ← peek? with
    | none => throw "Syntax error: EOF in backquote substitution"
    | some '\x60' =>
      skip 1
      return []
    | some '\\' =>
      skip 1
      match ← takeRaw? with
      | none => throw "Syntax error: EOF in backquote substitution"
      | some c =>
        let bare := c == '\\' || c == '\x60' || c == '$' || (quoted && c == '"')
        let rest ← readBackquoted quoted n
        return if bare then c :: rest else '\\' :: c :: rest
    | some _ =>
      match ← takeRaw? with
      | none => return []
      | some c => return c :: (← readBackquoted quoted n)

/-- A redirection sign whose first character is next. -/
def readSign : Reading String := do
  if ← accept '>' then
    if ← accept '>' then return ">>"
    else if ← accept '|' then return ">|"
    else if ← accept '&' then return ">&"
    else return ">"
  else
    let _ ← accept '<'
    if ← accept '<' then
      if ← accept '-' then return "<<-" else return "<<"
    else if ← accept '&' then return "<&"
    else if ← accept '>' then return "<>"
    else return "<"

def skipComment : Reading Unit :=
  modify fun s => { s with rest := s.rest.dropWhile (· != '\n') }

def putBack (t : Token) : Reading Unit :=
  modify fun s => { s with ahead := some t }

def endsWord (c : Char) : Bool :=
  [' ', '\t', '\n', ';', '&', '|', '<', '>', '(', ')'].contains c

def operatorSigns : List (Char × Char × String) :=
  [('&', '&', "&&"), ('|', '|', "||"), (';', ';', ";;")]

def readOperator (c : Char) : Reading Token := do
  for (first, second, sign) in operatorSigns do
    if c = first then
      if ← accept second then return .operator sign
  return .operator c.toString

def descriptor? (text : String) : Option Nat :=
  match text.toList with
  | [c] => if c.isDigit then some (c.toNat - '0'.toNat) else none
  | _ => none

/-- Operators and words that end a list of commands. -/
def endsList (t : Token) : Bool :=
  match t with
  | .fileEnd | .operator ")" | .operator ";;" => true
  | t => (t.keyword?.any ["do", "done", "elif", "else", "esac", "fi", "then", "\x7d"].contains)

mutual

def readDollar : Nat → Bool → Word → Reading Word
  | 0, _, _ => throw unterminated
  | n + 1, quoted, done => do
    match ← peek? with
    | some '(' =>
      skip 1
      if ← accept '(' then
        let body ← readQuoted n (.parentheses 0) false []
        return .arithmetic quoted body :: done
      else
        let body ← readNested n
        match ← readToken n with
        | .operator ")" => return .capture quoted body :: done
        | t => unexpected t (some ")")
    | some '\x7b' =>
      skip 1
      readBraced n quoted done
    | some c =>
      if isNameStart c then
        let name ← takeWhile isNameChar n
        return .parameter quoted (.named (String.ofList name)) .plain :: done
      else
        match special? c with
        | some p =>
          skip 1
          return .parameter quoted p .plain :: done
        | none => return addText quoted ['$'] done
    | none => return addText quoted ['$'] done

/-- A parameter in braces, behind the opening one, with what is done to its value. -/
def readBraced : Nat → Bool → Word → Reading Word
  | 0, _, _ => throw unterminated
  | n + 1, quoted, done => do
    let name? : Reading (Option Parameter) := do
      match ← peek? with
      | some c =>
        if isNameStart c then
          return some (.named (String.ofList (← takeWhile isNameChar n)))
        else if c.isDigit then
          let digits ← takeWhile Char.isDigit n
          return (String.ofList digits).toNat?.map .position
        else return none
      | none => return none
    let finish (p : Parameter) (form : Form) : Reading Word := do
      return .parameter quoted p form :: done
    -- the word of a form that is not understood is read all the same
    let wrong (p : Parameter) : Reading Word := do
      let _ ← readInner n quoted false
      finish p .wrong
    let sized (p : Parameter) : Reading Word := do
      if ← accept '\x7d' then finish p .size else wrong p
    match ← name? with
    | some p => readForm n quoted p done
    | none =>
      match ← peek? with
      | some '#' =>
        skip 1
        match ← name? with
        | some p => sized p
        | none =>
          match ← peek? with
          | some '\x7d' | none => readForm n quoted .count done
          | some c =>
            -- only a brace right behind makes it the size of a special parameter
            let before ← get
            skip 1
            if (← peek?) = some '\x7d' then
              match special? c with
              | some p => sized p
              | none => wrong .count
            else
              set before
              readForm n quoted .count done
      | some '\x7d' | none => wrong .count
      | some c =>
        match special? c with
        | some p =>
          skip 1
          readForm n quoted p done
        | none =>
          skip 1
          wrong .count

/-- The form behind a parameter in braces, to the closing one. -/
def readForm : Nat → Bool → Parameter → Word → Reading Word
  | 0, _, _, _ => throw unterminated
  | n + 1, quoted, p, done => do
    let finish (form : Form) : Reading Word := return .parameter quoted p form :: done
    match ← peek? with
    | some '%' | some '#' =>
      let atEnd := (← peek?) = some '%'
      skip 1
      let long ← accept (if atEnd then '%' else '#')
      finish (.trimmed atEnd long (← readInner n quoted true))
    | _ =>
      let orEmpty ← accept ':'
      match ← peek? with
      | some '\x7d' =>
        skip 1
        finish .plain
      | some '-' =>
        skip 1
        finish (.default orEmpty (← readInner n quoted false))
      | some '+' =>
        skip 1
        finish (.instead orEmpty (← readInner n quoted false))
      | some '?' =>
        skip 1
        finish (.required orEmpty (← readInner n quoted false))
      | some '=' =>
        skip 1
        finish (.assigned orEmpty (← readInner n quoted false))
      | _ =>
        skip 1
        let _ ← readInner n quoted false
        finish .wrong

/--
The word inside of braces, to the closing one. A pattern is always read as if outside of quotes.
-/
def readInner : Nat → Bool → Bool → Reading Word
  | 0, _, _ => throw unterminated
  | n + 1, quoted, pattern => do
    if quoted && !pattern then readQuoted n .brace false []
    else
      let w ← readPlain n true []
      if ← accept '\x7d' then return w else throw "Syntax error: Missing '\x7d'"

/-- Text in which blanks are plain, the last piece of what stands before it first. -/
def readQuoted : Nat → Ending → Bool → Word → Reading Word
  | 0, _, _, _ => throw unterminated
  | n + 1, ending, inner, done => do
    match ← peek? with
    | none =>
      match ending with
      | .nothing => return done.reverse
      | .parentheses _ => throw "Syntax error: Missing '))'"
      | _ => throw unterminated
    | some '\\' =>
      skip 1
      match ← takeRaw? with
      | none => readQuoted n ending inner (addText true ['\\'] done)
      | some c =>
        let bare := c == '\\' || c == '\x60' || c == '$' ||
          (c == '"' && ending != .nothing) || (c == '\x7d' && ending == .brace)
        readQuoted n ending inner (addText true (if bare then [c] else ['\\', c]) done)
    | some '$' =>
      skip 1
      readQuoted n ending inner (← readDollar n true done)
    | some '\x60' =>
      skip 1
      let text ← readBackquoted true n
      readQuoted n ending inner (.capture true (← readText n text) :: done)
    | some '"' =>
      match ending with
      | .quote =>
        skip 1
        return done.reverse
      | .brace =>
        skip 1
        readQuoted n ending (!inner) done
      | _ =>
        skip 1
        readQuoted n ending inner (addText true ['"'] done)
    | some '\x7d' =>
      skip 1
      if ending = .brace && !inner then return done.reverse
      else readQuoted n ending inner (addText true ['\x7d'] done)
    | some c =>
      if !signsInQuotes.contains c then
        let run ← takeWhile (fun c => !signsInQuotes.contains c) n
        return ← readQuoted n ending inner (addText true run done)
      let _ ← takeRaw?
      match ending, c with
      | .parentheses depth, '(' =>
        readQuoted n (.parentheses (depth + 1)) inner (addText true [c] done)
      | .parentheses (depth + 1), ')' =>
        readQuoted n (.parentheses depth) inner (addText true [c] done)
      | .parentheses 0, ')' =>
        if ← accept ')' then return done.reverse
        else readQuoted n ending inner (addText true [c] done)
      | _, _ => readQuoted n ending inner (addText true [c] done)

/-- Text outside of quotes; in braces only a closing one ends it. -/
def readPlain : Nat → Bool → Word → Reading Word
  | 0, _, _ => throw unterminated
  | n + 1, braced, done => do
    match ← peek? with
    | none => return done.reverse
    | some '\'' =>
      skip 1
      readPlain n braced (addText true (← readLiteral) done)
    | some '"' =>
      skip 1
      let inside ← readQuoted n .quote false []
      let joined := inside.foldl (fun done piece => match piece with
        | .text q cs => addText q cs done
        | piece => piece :: done) done
      -- quotes around nothing, or around no text, are still there
      readPlain n braced (if inside.isEmpty then addText true [] done else joined)
    | some '\\' =>
      skip 1
      match ← takeRaw? with
      | none => readPlain n braced (addText true ['\\'] done)
      | some c => readPlain n braced (addText true [c] done)
    | some '$' =>
      skip 1
      readPlain n braced (← readDollar n false done)
    | some '\x60' =>
      skip 1
      let text ← readBackquoted false n
      readPlain n braced (.capture false (← readText n text) :: done)
    | some c =>
      if braced then
        if c = '\x7d' then return done.reverse
        else
          let _ ← takeRaw?
          readPlain n braced (addText false [c] done)
      else if endsWord c then return done.reverse
      else
        let run ← takeWhile (fun c => !endsWord c && !signsInWords.contains c) n
        readPlain n braced (addText false run done)

/-- The script that a text of its own holds, up to what cannot be read as a command. -/
def readText : Nat → List Char → Reading Script
  | 0, _ => throw unterminated
  | n + 1, text => do
    let outer ← get
    set { outer with rest := text, ahead := none, pending := [] }
    let body ← readNested n
    let inner ← get
    set { outer with documents := inner.documents, nextDocument := inner.nextDocument }
    return body

/-- The commands of a substitution. -/
def readNested : Nat → Reading Script
  | 0 => throw unterminated
  | n + 1 => do
    let pending := (← get).pending
    modify fun s => { s with pending := [] }
    let body ← readList n true []
    readDocuments n
    modify fun s => { s with pending }
    return body

/-- The texts that wait for the end of the line. -/
def readDocuments : Nat → Reading Unit
  | 0 => return
  | n + 1 => do
    match (← get).pending with
    | [] => return
    | d :: pending =>
      modify fun s => { s with pending }
      let s ← get
      let (text, rest) := takeDocument d (s.rest.length + 1) false s.rest
      let taken := (s.rest.take (s.rest.length - rest.length)).count '\n'
      let word ←
        if d.literal then pure [.text true text]
        else
          set { s with rest := text }
          let word ← readQuoted n .nothing false []
          let inner ← get
          set { s with documents := inner.documents, nextDocument := inner.nextDocument }
          pure word
      modify fun s =>
        { s with rest, line := s.line + taken, documents := (d.number, word) :: s.documents }
      readDocuments n

def readToken : Nat → Reading Token
  | 0 => throw unterminated
  | n + 1 => do
    if let some t := (← get).ahead then
      modify fun s => { s with ahead := none }
      return t
    match ← peek? with
    | none => return .fileEnd
    | some '\n' =>
      let _ ← takeRaw?
      return .lineEnd
    | some '#' =>
      skipComment
      readToken n
    | some c =>
      if c = ' ' || c = '\t' then
        skip 1
        readToken n
      else if c = '<' || c = '>' then return .redirect none (← readSign)
      else if endsWord c then
        skip 1
        readOperator c
      else
        let w ← readPlain n false []
        let next ← peek?
        match w.plain?.bind descriptor? with
        | some fd =>
          if next = some '<' || next = some '>' then return .redirect (some fd) (← readSign)
        | none => pure ()
        let quoted := w.any fun
          | .text quoted _ => quoted
          | .parameter quoted .. | .capture quoted _ | .arithmetic quoted _ => quoted
        return .word w quoted

/-- The next token that is no end of line. -/
def readSolid : Nat → Reading Token
  | 0 => throw unterminated
  | n + 1 => do
    match ← readToken n with
    | .lineEnd =>
      readDocuments n
      readSolid n
    | t => return t

/-- Take a keyword that has to stand here. -/
def expect : Nat → String → Reading Unit
  | 0, _ => throw unterminated
  | n + 1, k => do
    let t ← readSolid n
    if t.keyword? = some k then return else unexpected t (some k)

/--
Commands over several lines up to what ends a list, which is put back. The first one may be missing
only if that is allowed.
-/
def readList : Nat → Bool → List Script → Reading Script
  | 0, _, _ => throw unterminated
  | n + 1, mayEnd, done => do
    let t ← readSolid n
    putBack t
    let finished : Script := match done with
      | [s] => s
      | done => .sequence done.reverse
    if mayEnd && endsList t then return finished
    let s ← readAndOr n
    match ← readToken n with
    | .operator "&" => readList n true (.background s :: done)
    | .operator ";" => readList n true (s :: done)
    | .lineEnd =>
      readDocuments n
      readList n true (s :: done)
    | t =>
      putBack t
      return match done with
        | [] => s
        | done => .sequence (s :: done).reverse

def readAndOr : Nat → Reading Script
  | 0 => throw unterminated
  | n + 1 => do readAndOrRest n (← readPipeline n false)

def readAndOrRest : Nat → Script → Reading Script
  | 0, _ => throw unterminated
  | n + 1, first => do
    match ← readToken n with
    | .operator "&&" => readAndOrRest n (.ifSo first (← readPipeline n true))
    | .operator "||" => readAndOrRest n (.ifNot first (← readPipeline n true))
    | t =>
      putBack t
      return first

/-- Commands with pipes between them; an exclamation mark turns the result around. -/
def readPipeline : Nat → Bool → Reading Script
  | 0, _ => throw unterminated
  | n + 1, overLines => do
    let t ← if overLines then readSolid n else readToken n
    let negated := t.keyword? = some "!"
    if !negated then putBack t
    let first ← readCommand n
    let rest ← readPipes n
    let body := if rest.isEmpty then first else .pipeline (first :: rest)
    return if negated then .negated body else body

def readPipes : Nat → Reading (List Script)
  | 0 => throw unterminated
  | n + 1 => do
    match ← readToken n with
    | .operator "|" =>
      putBack (← readSolid n)
      let s ← readCommand n
      return s :: (← readPipes n)
    | t =>
      putBack t
      return []

/-- A compound command, told by its first word, or a simple one. -/
def readCommand : Nat → Reading Script
  | 0 => throw unterminated
  | n + 1 => do
    let t ← readToken n
    let line := (← get).line
    let bracketed (close : String) : Reading Script := do
      let body ← readList n false []
      expect n close
      return body
    if let .word w quoted := t then
      if t.keyword?.isNone then
        if ← replaceAlias w quoted then return ← readCommand n
    match t with
    | .operator "(" =>
      let body ← readList n false []
      match ← readSolid n with
      | .operator ")" => return .apart line body (← readRedirects n)
      | t => unexpected t (some ")")
    | .word .. | .redirect .. =>
      match t.keyword? with
      | none =>
        putBack t
        readSimple n line true [] [] []
      | some "\x7b" => readTrailing n line (← bracketed "\x7d")
      | some "if" =>
        let s ← readBranch n
        readTrailing n line s
      | some "while" => readLoop n line false
      | some "until" => readLoop n line true
      | some "for" => readEach n line
      | some "case" => readChoice n line
      | some _ => unexpected t
    | t => unexpected t

/--
A compound command with the redirections behind it. Those behind braces around nothing but a shell
of its own stand in for the redirections of that shell.
-/
def readTrailing : Nat → Nat → Script → Reading Script
  | 0, _, _ => throw unterminated
  | n + 1, line, s => do
    match s, ← readRedirects n with
    | s, [] => return s
    | .apart line body _, rs => return .apart line body rs
    | s, rs => return .redirected line s rs

def readRedirects : Nat → Reading (List Redirect)
  | 0 => throw unterminated
  | n + 1 => do
    match ← readToken n with
    | .redirect fd sign =>
      let r ← readRedirect n fd sign
      return r :: (← readRedirects n)
    | t =>
      putBack t
      return []

def readRedirect : Nat → Option Nat → String → Reading Redirect
  | 0, _, _ => throw unterminated
  | n + 1, fd, sign => do
    match ← readToken n with
    | .word w quoted =>
      let input := fd.getD 0
      let output := fd.getD 1
      match sign with
      | "<" => return .file .read input w
      | "<>" => return .file .readWrite input w
      | "<&" => return .file .duplicate input w
      | ">" => return .file .write output w
      | ">|" => return .file .clobber output w
      | ">>" => return .file .append output w
      | ">&" => return .file .duplicate output w
      | _ =>
        let delimiter := w.flatMap fun
          | .text _ cs => cs
          | _ => []
        let number := (← get).nextDocument
        modify fun s => { s with
          nextDocument := number + 1
          pending := s.pending ++ [⟨number, delimiter, quoted, sign == "<<-"⟩] }
        return .document input number
    | t => unexpected t

def readBranch : Nat → Reading Script
  | 0 => throw unterminated
  | n + 1 => do
    let condition ← readList n false []
    expect n "then"
    let yes ← readList n false []
    let t ← readSolid n
    match t.keyword? with
    | some "elif" => return .branch condition yes (← readBranch n)
    | some "else" =>
      let no ← readList n false []
      expect n "fi"
      return .branch condition yes no
    | some "fi" => return .branch condition yes (.sequence [])
    | _ => unexpected t (some "fi")

def readLoop : Nat → Nat → Bool → Reading Script
  | 0, _, _ => throw unterminated
  | n + 1, line, stopOn => do
    let condition ← readList n false []
    expect n "do"
    let body ← readList n false []
    expect n "done"
    readTrailing n line (.loop stopOn condition body)

/-- Words up to the end of a line or a semicolon. -/
def readWords : Nat → Reading (List Word)
  | 0 => throw unterminated
  | n + 1 => do
    match ← readToken n with
    | .word w _ => return w :: (← readWords n)
    | .operator ";" => return []
    | .lineEnd =>
      readDocuments n
      return []
    | t => unexpected t

def readEach : Nat → Nat → Reading Script
  | 0, _ => throw unterminated
  | n + 1, line => do
    match ← readToken n with
    | .word w false =>
      match w.plain?.filter fun name => isName name.toList with
      | none => throw "Syntax error: Bad for loop variable"
      | some name =>
        let t ← readSolid n
        let words ←
          if t.keyword? = some "in" then readWords n
          else
            match t with
            | .operator ";" => pure [[.parameter true .each .plain]]
            | t => do
              putBack t
              pure [[.parameter true .each .plain]]
        expect n "do"
        let body ← readList n false []
        expect n "done"
        readTrailing n line (.each line name words body)
    | _ => throw "Syntax error: Bad for loop variable"

def readChoice : Nat → Nat → Reading Script
  | 0, _ => throw unterminated
  | n + 1, line => do
    match ← readToken n with
    | .word subject _ =>
      let t ← readSolid n
      if t.keyword? != some "in" then unexpected t (some "in")
      else
        let cases ← readCases n
        readTrailing n line (.choose line subject cases)
    | t => unexpected t (some "word")

def readCases : Nat → Reading (List (List Word × Script))
  | 0 => throw unterminated
  | n + 1 => do
    let t ← readSolid n
    if t.keyword? = some "esac" then return []
    else
      let t ← match t with
        | .operator "(" => readToken n
        | t => pure t
      putBack t
      let patterns ← readPatterns n
      let body ← readList n true []
      let t ← readSolid n
      if t.keyword? = some "esac" then return [(patterns, body)]
      else
        match t with
        | .operator ";;" => return (patterns, body) :: (← readCases n)
        | t => unexpected t (some ";;")

def readPatterns : Nat → Reading (List Word)
  | 0 => throw unterminated
  | n + 1 => do
    match ← readToken n with
    | .word w _ =>
      match ← readToken n with
      | .operator "|" => return w :: (← readPatterns n)
      | .operator ")" => return [w]
      | t => unexpected t (some ")")
    | t => unexpected t (some ")")

/-- The words and redirections of a simple command, or the definition of a function. -/
def readSimple : Nat → Nat → Bool → List Word → List Word → List Redirect → Reading Script
  | 0, _, _, _, _, _ => throw unterminated
  | n + 1, line, assigning, assignments, words, redirects => do
    match ← readToken n with
    | .word w quoted =>
      if !(words.isEmpty && assignments.isEmpty) then
        if ← (if words.isEmpty then replaceAlias w quoted else replaceChained w quoted) then
          return ← readSimple n line assigning assignments words redirects
      if assigning && w.assigns then
        readSimple n line true (assignments ++ [w]) words redirects
      else readSimple n line false assignments (words ++ [w]) redirects
    | .redirect fd sign =>
      let r ← readRedirect n fd sign
      readSimple n line assigning assignments words (redirects ++ [r])
    | t =>
      match t, assignments, words, redirects with
      | .operator "(", [], [w], [] =>
        match ← readToken n with
        | .operator ")" => readFunction n line w
        | t => unexpected t (some ")")
      | t, _, _, _ =>
        putBack t
        return .simple line assignments words redirects

/-- The body of a function behind its name and parentheses. -/
def readFunction : Nat → Nat → Word → Reading Script
  | 0, _, _ => throw unterminated
  | n + 1, line, w => do
    match w.plain?.filter fun name => isName name.toList && !specialBuiltins.contains name with
    | none => throw "Syntax error: Bad function name"
    | some name =>
      putBack (← readSolid n)
      return .define name line (← readCommand n)

end

def readLine : Nat → Reading (Option Script)
  | 0 => throw unterminated
  | n + 1 => do
    match ← readToken n with
    | .fileEnd => return none
    | .lineEnd =>
      readDocuments n
      readLine n
    | t =>
      putBack t
      return some (← readRow n [])
where
  /-- The commands up to the end of the line. -/
  readRow : Nat → List Script → Reading Script
    | 0, _ => throw unterminated
    | n + 1, done => do
      let finish (done : List Script) : Reading Script := return match done with
        | [s] => s
        | done => .sequence done.reverse
      let s ← readAndOr n
      let goOn (done : List Script) : Reading Script := do
        match ← readToken n with
        | .lineEnd =>
          readDocuments n
          finish done
        | .fileEnd =>
          readDocuments n
          putBack .fileEnd
          finish done
        | t =>
          putBack t
          readRow n done
      match ← readToken n with
      | .operator "&" => goOn (.background s :: done)
      | .operator ";" => goOn (s :: done)
      | .lineEnd =>
        readDocuments n
        finish (s :: done)
      | .fileEnd =>
        readDocuments n
        putBack .fileEnd
        finish (s :: done)
      | t => unexpected t

end DocLaunch.Shell
