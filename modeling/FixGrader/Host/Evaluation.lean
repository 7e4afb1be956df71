import FixGrader.Host.Builtin
/-!
# Carrying out scripts

Words are expanded, streams are led where they are wanted, and commands are carried out. A bound on
the depth of the recursion keeps a script that never ends from running forever: such a run is
`endless`.
-/
namespace FixGrader.Host.Shell

/-- What the arguments of a shell ask for. -/
inductive ShellCall where
  | text (options : ShellOptions) (script : ByteText) (args : List ByteText)
  | file (options : ShellOptions) (file : ByteText) (args : List ByteText)
  | input (options : ShellOptions) (args : List ByteText)
  | missingText
  | unknownOption (text : ByteText)
  deriving Inhabited

/-- Reads the letters of an option of a shell; tells whether a text or the input is wanted. -/
def shellLetters (sign : Char) :
    List Char → ShellOptions × Bool × Bool → Except Char (ShellOptions × Bool × Bool)
  | [], found => .ok found
  | c :: cs, (options, text, input) =>
    if c = 'c' then shellLetters sign cs (options, true, input)
    else if c = 's' then shellLetters sign cs (options, text, true)
    else
      match options.set? c (sign = '-') with
      | some options => shellLetters sign cs (options, text, input)
      | none => .error c

/-- Reads the arguments of a shell. -/
def shellCall : ShellOptions × Bool × Bool → List ByteText → ShellCall
  | (options, text, input), args =>
    let settled (args : List ByteText) : ShellCall :=
      match text, input, args with
      | true, _, script :: args => .text options script args
      | true, _, [] => .missingText
      | false, false, file :: args => .file options file args
      | false, _, args => .input options args
    match args with
    | ['-', '-'] :: rest | ['-'] :: rest => settled rest
    | (sign :: c :: cs) :: rest =>
      if sign = '-' ∨ sign = '+' then
        match shellLetters sign (c :: cs) (options, text, input) with
        | .ok found => shellCall found rest
        | .error c => .unknownOption [sign, c]
      else settled args
    | args => settled args

/-- The message for a file that cannot be opened. -/
def cannotOpen (name : ByteText) (e : FileError) : String :=
  "cannot open " ++ textOf name ++ ": " ++ (match e with
    | .notFound => "No such file"
    | e => reasonOf e)

/-- The message for a file that cannot be made. -/
def cannotCreate (name : ByteText) (e : FileError) : String :=
  "cannot create " ++ textOf name ++ ": " ++ (match e with
    | .notFound => "Directory nonexistent"
    | e => reasonOf e)

/-- Where a stream leads that is led to a file, which is emptied unless the text is to be added. -/
def openSink (name : ByteText) (append : Bool) : Sh (Except FileError Sink) := do
  if name = "/dev/null".toList then return .ok .nothing
  else
    let s ← get
    let path := pathOf name
    let old := if append then (s.disk.readBytes path).toOption.getD .empty else .empty
    match s.disk.writeBytes path old with
    | .ok disk =>
      set { s with disk }
      return .ok (.file path)
    | .error e => return .error e

/-- Leads a stream to a sink. -/
def lead (stream : Nat) (sink : Sink) : Sh Unit :=
  modify fun s => { s with sinks := fun n => if n = stream then sink else s.sinks n }

/-- Takes note of what has come of a round of a loop; tells whether the loop goes on. -/
def afterRound : Sh Bool := do
  let s ← get
  match s.halt with
  | none => return true
  | some (.leave loops again) =>
    if loops ≤ 1 then
      set { s with halt := none }
      return again
    else
      set { s with halt := some (.leave (loops - 1) again) }
      return false
  | some _ => return false

/-- Carries out an action as a loop. -/
def asLoop (action : Sh Unit) : Sh Unit := do
  modify fun s => { s with loops := s.loops + 1 }
  action
  modify fun s => { s with loops := s.loops - 1 }

/-- Writes what a traced shell shows of a command. -/
def trace (words : List ByteText) : Sh Unit := do
  if (← get).options.traced then write 2 ('+' :: ' ' :: Program.joined words ++ ['\n'])

/-- Tells where a command is found. -/
def locateCommand (name : ByteText) : Sh Unit := do
  let text := textOf name
  let s ← get
  if builtInNames.contains text || s.functions.any (·.1 = name) then answer (name ++ ['\n'])
  else
    match Executable.find s.disk text with
    | .ok (.program ..) => answer ("/usr/bin/".toList ++ name ++ ['\n'])
    | .ok (.script ..) => answer (name ++ ['\n'])
    | .error _ => setStatus 127

mutual

/-- The value of a parameter after an operation. -/
def parameterText : Nat → ByteText → Operation → Bool → Sh ByteText
  | 0, _, _, _ => do
    stop .endless
    return []
  | fuel + 1, name, operation, quoted => do
    let found := (← get).value? name
    let isMissing (empty : Bool) : Bool := match found with
      | none => true
      | some value => empty && value.isEmpty
    let other (text : ByteText) : Sh ByteText :=
      match if quoted then (Script.quotedParts .braces (text.length + 1) text).map (·.1)
        else Script.wholeWord? text with
      | some w => expandText fuel w
      | none => pure text
    match operation with
    | .value =>
      if found.isNone && (← get).options.defined then abort (textOf name ++ ": parameter not set")
      return found.getD []
    | .length => return (toString (found.getD []).length).toList
    | .instead empty keep text =>
      if isMissing empty then
        let value ← other text
        if keep then setVariable name value
        return value
      else return found.getD []
    | .provided empty text => if isMissing empty then return [] else other text
    | .required empty message =>
      if isMissing empty then
        let standard := "parameter not set" ++ (if empty then " or null" else "")
        abort (textOf name ++ ": " ++ (if message.isEmpty then standard else textOf message))
      return found.getD []
    | .without atEnd longest pattern =>
      let pattern ← expandMarked fuel ((Script.wholeWord? pattern).getD [.text pattern true])
      return Glob.without atEnd longest pattern (found.getD [])

/-- Adds the fields that a part of a word expands to. -/
def expandPart : Nat → Fields → WordPart → Sh Fields
  | 0, f, _ => do
    stop .endless
    return f
  | fuel + 1, f, part => do
    match part with
    | .text t quoted => return f.add (t.map (·, quoted))
    | .parameter name operation quoted =>
      if quoted && name = ['@'] && operation = .value then return f.addAll (← get).parameters
      else
        let value ← parameterText fuel name operation quoted
        return if quoted then f.addPlain value else f.addSplit value
    | .arithmetic expression =>
      let text ← match Script.quotedParts .document (expression.length + 1) expression with
        | some (parts, _) => expandText fuel parts
        | none => pure expression
      let s ← get
      let value (name : ByteText) := Arithmetic.number? ((s.value? name).getD [])
      match Arithmetic.evaluate value text with
      | .ok n => return f.addPlain (toString n).toList
      | .error .divisionByZero =>
        abort ("arithmetic expression: division by zero: \"" ++ textOf text ++ "\"")
        return f
      | .error .malformed =>
        abort ("arithmetic expression: expecting primary: \"" ++ textOf text ++ "\"")
        return f
    | .output script quoted =>
      let line := (← get).line
      let text ← captured (apart (carryOut fuel line script))
      let text := (text.reverse.dropWhile (· = '\n')).reverse
      return if quoted then f.addPlain text else f.addSplit text

/-- The fields that a word expands to. -/
def expandWord : Nat → Fields → Word → Sh Fields
  | 0, f, _ => do
    stop .endless
    return f
  | _ + 1, f, [] => return f
  | fuel + 1, f, part :: parts => do expandWord fuel (← expandPart fuel f part) parts

/-- The text that a word expands to, without splitting it, with marks at what was quoted. -/
def expandMarked : Nat → Word → Sh MarkedText
  | 0, _ => do
    stop .endless
    return []
  | _ + 1, [] => return []
  | fuel + 1, part :: parts => do
    let isQuoted := match part with
      | .parameter _ _ quoted | .output _ quoted => quoted
      | _ => true
    let part := match part with
      | .parameter name operation _ => .parameter name operation true
      | .output script _ => .output script true
      | part => part
    let fields := (← expandPart fuel .empty part).close.done
    let text := List.intercalate [(' ', true)] fields
    let text := if isQuoted then text else text.map fun c => (c.1, false)
    return text ++ (← expandMarked fuel parts)

def expandText : Nat → Word → Sh ByteText
  | 0, _ => do
    stop .endless
    return []
  | fuel + 1, w => do return Glob.plain (← expandMarked fuel w)

/-- The fields that some words expand to, patterns replaced by the names of files. -/
def expandWords : Nat → List Word → Sh (List ByteText)
  | 0, _ => do
    stop .endless
    return []
  | _ + 1, [] => return []
  | fuel + 1, w :: ws => do
    let f ← expandWord fuel .empty w
    let disk := (← get).disk
    return f.close.done.flatMap (pathsOf disk) ++ (← expandWords fuel ws)

/-- Sets variables; gives what a traced shell shows of that. -/
def assign : Nat → List (ByteText × Word) → Sh (List ByteText)
  | 0, _ => do
    stop .endless
    return []
  | _ + 1, [] => return []
  | fuel + 1, (name, w) :: rest => do
    let value ← expandText fuel w
    setVariable name value
    return (name ++ '=' :: value) :: (← assign fuel rest)

/-- Follows redirections; tells whether all files could be opened. -/
def follow : Nat → List Redirect → Sh Bool
  | 0, _ => do
    stop .endless
    return false
  | _ + 1, [] => return true
  | fuel + 1, r :: rest => do
    match r with
    | .input file =>
      let name ← expandText fuel file
      match (← get).readFile name with
      | .ok input =>
        modify fun s => { s with input }
        follow fuel rest
      | .error e =>
        report 2 (cannotOpen name e)
        return false
    | .literal text =>
      let input ← expandText fuel text
      modify fun s => { s with input }
      follow fuel rest
    | .output stream file append =>
      let name ← expandText fuel file
      match ← openSink name append with
      | .ok sink =>
        lead stream sink
        follow fuel rest
      | .error e =>
        report 2 (cannotCreate name e)
        return false
    | .duplicate stream source =>
      lead stream ((← get).sinks source)
      follow fuel rest

/-- Carries out an action whose streams are redirected; tells whether that was possible. -/
def redirected : Nat → List Redirect → Sh Unit → Sh Bool
  | 0, _, _ => do
    stop .endless
    return false
  | fuel + 1, rs, action => do
    if rs.isEmpty then
      action
      return true
    else
      let before ← get
      let hasInput := rs.any fun
        | .input _ | .literal _ => true
        | _ => false
      let isOpen ← follow fuel rs
      if isOpen then action
      modify fun s => {
        s with sinks := before.sinks, input := if hasInput then before.input else s.input }
      return isOpen

/-- Carries out the text of a script that begins on a line. -/
def carryOut : Nat → Nat → ByteText → Sh Unit
  | 0, _, _ => stop .endless
  | fuel + 1, line, text => do
    let before ← get
    let lastLine := line + text.count '\n'
    match Script.ofText? text with
    | some c =>
      set { before with line, lastLine }
      eval fuel c
      modify fun s => { s with line := before.line, lastLine := before.lastLine }
    | none =>
      set { before with line }
      abort "Syntax error"

/-- Carries out a whole script, and at its end what is kept for it. -/
def carryOutWhole : Nat → ByteText → Sh Unit
  | 0, _ => stop .endless
  | fuel + 1, text => do
    modify fun s => {
      s with functions := [], bindings := s.environment, shielded := false, status := 0 }
    carryOut fuel 1 text
    let s ← get
    let last := match s.halt with
      | some (.killed _) | some .endless => none
      | some (.exit n) => some (n, s.trapFor? 0)
      | _ => some (s.status, s.trapFor? 0)
    match last with
    | some (status, some action) =>
      set { s with traps := [], halt := none, status }
      carryOut fuel 1 action
      if ← isRunning then stop (.exit status)
    | _ => return

/-- Carries out a program, in a shell of its own if it is a script. -/
def launch : Nat → ByteText → Executable → List ByteText → Sh Unit
  | 0, _, _, _ => stop .endless
  | fuel + 1, _, .script name text, args => apart do
    modify fun s => { s with name, parameters := args, options := {} }
    carryOutWhole fuel text
  | fuel + 1, called, .program name first, args => do
    let args := first ++ args
    if name = "sh" ∨ name = "dash" then
      match shellCall ({}, false, false) args with
      | .text options text args => apart do
        modify fun s => {
          s with name := args.headD called, parameters := args.tail, options }
        carryOutWhole fuel text
      | .input options args => apart do
        let text ← takeInput
        modify fun s => { s with name := called, parameters := args, options }
        carryOutWhole fuel text
      | .file options file args =>
        match (← get).readFile file with
        | .ok text => apart do
          modify fun s => { s with name := file, parameters := args, options }
          carryOutWhole fuel text
        | .error e => fail 2 (textOf called ++ ": 0: " ++ cannotOpen file e ++ "\n")
      | .missingText => fail 2 (textOf called ++ ": 0: -c requires an argument\n")
      | .unknownOption text =>
        fail 2 (textOf called ++ ": 0: Illegal option " ++ textOf text ++ "\n")
    else systemProgram name args

/-- Starts a program by its name; `label` comes before the name in messages. -/
def start : Nat → String → ByteText → List ByteText → Sh Unit
  | 0, _, _, _ => stop .endless
  | fuel + 1, label, name, args => do
    let s ← get
    match Executable.find s.disk (textOf name) with
    | .ok executable => launch fuel name executable args
    | .error .notFound => report 127 (label ++ textOf name ++ ": not found")
    | .error (.other _) =>
      match s.readFile name with
      | .ok text => launch fuel name (.script name text) args
      | .error _ => report 126 (label ++ textOf name ++ ": Exec format error")
    | .error e => report 126 (label ++ textOf name ++ ": " ++ reasonOf e)

/-- Starts a program and waits for it; a signal that ends it is told. -/
def startAndWait : Nat → ByteText → List ByteText → Sh Unit
  | 0, _, _ => stop .endless
  | fuel + 1, name, args => do
    start fuel "" name args
    match (← get).halt with
    | some (.killed signal) =>
      modify fun s => { s with halt := none }
      fail (128 + signal) (if signal = 9 then "Killed\n" else if signal = 15 then "Terminated\n"
        else "")
    | _ => return

/-- Carries out a command that a shell carries out itself, or a program. -/
def callNamed : Nat → ByteText → List ByteText → Sh Unit
  | 0, _, _ => stop .endless
  | fuel + 1, name, args => do
    match String.ofList name, args with
    | "exec", name :: args =>
      start fuel "exec: " name args
      let s ← get
      if s.halt.isNone then stop (.exit s.status)
    | "exec", [] => setStatus 0
    | "command", ['-', 'v'] :: name :: _ => locateCommand name
    | "command", name :: args => callNamed fuel name args
    | "command", [] => setStatus 0
    | "eval", _ => carryOut fuel (← get).line (Program.joined args)
    | ".", file :: _ =>
      if !file.contains '/' then abort (".: " ++ textOf file ++ ": not found")
      else
        match (← get).readFile file with
        | .ok text =>
          carryOut fuel 1 text
          match (← get).halt with
          | some (.returned status) => modify fun s => { s with halt := none, status }
          | _ => return
        | .error e => abort (".: " ++ cannotOpen file e)
    | text, _ =>
      match builtIn? text args with
      | some action => action
      | none => startAndWait fuel name args

/-- Carries out a command by its name: a function, or else another one. -/
def call : Nat → ByteText → List ByteText → Sh Unit
  | 0, _, _ => stop .endless
  | fuel + 1, name, args => do
    let before ← get
    match before.functions.find? (·.1 = name) with
    | some (_, body) =>
      set { before with parameters := args, loops := 0 }
      eval fuel body
      modify fun s => { s with parameters := before.parameters, loops := before.loops }
      match (← get).halt with
      | some (.returned status) => modify fun s => { s with halt := none, status }
      | _ => return
    | none => callNamed fuel name args

/-- Carries out the body of a loop for each of some values. -/
def forEach : Nat → ByteText → List ByteText → Command → Sh Unit
  | 0, _, _, _ => stop .endless
  | _ + 1, _, [], _ => return
  | fuel + 1, name, v :: vs, body => do
    setVariable name v
    eval fuel body
    if ← afterRound then forEach fuel name vs body

/-- Carries out the body of a loop while the condition has the wanted outcome. -/
def loop : Nat → Bool → Command → Command → Nat → Sh Unit
  | 0, _, _, _, _ => stop .endless
  | fuel + 1, wanted, condition, body, status => do
    shield (eval fuel condition)
    if ← afterRound then
      if ((← get).status == 0) == wanted then
        eval fuel body
        let status := (← get).status
        if ← afterRound then loop fuel wanted condition body status
      else setStatus status

/-- Carries out the first branch with a pattern that matches. -/
def choose : Nat → ByteText → List (List Word × Command) → Sh Unit
  | 0, _, _ => stop .endless
  | _ + 1, _, [] => setStatus 0
  | fuel + 1, subject, (patterns, body) :: rest => do
    if ← matchesAny fuel subject patterns then
      setStatus 0
      eval fuel body
    else choose fuel subject rest

/-- Whether one of some patterns matches a text. -/
def matchesAny : Nat → ByteText → List Word → Sh Bool
  | 0, _, _ => do
    stop .endless
    return false
  | _ + 1, _, [] => return false
  | fuel + 1, subject, w :: ws => do
    if Glob.matchesText (← expandMarked fuel w) subject then return true
    else matchesAny fuel subject ws

/-- Carries out a command without parts. -/
def evalSimple : Nat → List (ByteText × Word) → List Word → List Redirect → Sh Unit
  | 0, _, _, _ => stop .endless
  | fuel + 1, assignments, words, rs => do
    if words.isEmpty then setStatus 0
    let words ← expandWords fuel words
    if ← isRunning then
      match words with
      | [] =>
        trace (← assign fuel assignments)
        if ← isRunning then
          let _ ← redirected fuel rs (pure ())
      | [['e', 'x', 'e', 'c']] =>
        if ← follow fuel rs then setStatus 0 else stop (.exit 2)
      | name :: args =>
        let before ← get
        let shown ← assign fuel assignments
        modify fun s => { s with exported := assignments.map (·.1) ++ s.exported }
        if ← isRunning then
          let isOpen ← redirected fuel rs do
            trace (shown ++ name :: args)
            call fuel name args
          if !isOpen && specialNames.contains (String.ofList name) then stop (.exit 2)
          if !assignments.isEmpty then
            modify fun s => { s with bindings := before.bindings, exported := before.exported }

/-- Carries out what is to be done for a signal that has come. -/
def attend : Nat → Sh Unit
  | 0 => stop .endless
  | fuel + 1 => do
    let s ← get
    match s.pending with
    | some action =>
      set { s with pending := none }
      carryOut fuel s.line action
      if ← isRunning then setStatus s.status
    | none => return

/-- Carries out a command. -/
def eval : Nat → Command → Sh Unit
  | 0, _ => stop .endless
  | fuel + 1, c => do
    if ← isRunning then
      match c with
      | .skip => return
      | .simple below assignments words rs =>
        modify fun s => { s with line := s.lastLine - below }
        evalSimple fuel assignments words rs
        attend fuel
        checkFailure
      | .sequence a b =>
        eval fuel a
        eval fuel b
      | .both a b =>
        shield (eval fuel a)
        if (← get).status = 0 then eval fuel b
      | .either a b =>
        shield (eval fuel a)
        if (← get).status ≠ 0 then eval fuel b
      | .negated a =>
        shield (eval fuel a)
        modify fun s => { s with status := if s.status = 0 then 1 else 0 }
      | .pipe a b =>
        let before ← get
        let input ← captured (apart (eval fuel a))
        let middle := (← get).elapsed
        modify fun s => { s with elapsed := before.elapsed, input }
        apart (eval fuel b)
        modify fun s => { s with elapsed := max middle s.elapsed, input := before.input }
        checkFailure
      | .background a =>
        let before ← get
        set { before with input := [] }
        apart (eval fuel a)
        modify fun s => {
          s with
          input := before.input
          elapsed := before.elapsed
          backgroundEnd := max s.backgroundEnd s.elapsed
          backgroundStatus := s.status
          status := 0 }
      | .conditional condition yes no =>
        shield (eval fuel condition)
        if ← isRunning then
          if (← get).status = 0 then eval fuel yes
          else
            setStatus 0
            eval fuel no
      | .whileTrue condition body => asLoop (loop fuel true condition body 0)
      | .whileFalse condition body => asLoop (loop fuel false condition body 0)
      | .forEach name words body =>
        let values ← expandWords fuel words
        setStatus 0
        asLoop (forEach fuel name values body)
      | .choice subject branches =>
        choose fuel (← expandText fuel subject) branches
      | .define name body =>
        modify fun s => {
          s with functions := (name, body) :: s.functions.filter (·.1 != name), status := 0 }
      | .subshell a =>
        apart (eval fuel a)
        checkFailure
      | .redirected a rs =>
        let _ ← redirected fuel rs (eval fuel a)

end

end FixGrader.Host.Shell
