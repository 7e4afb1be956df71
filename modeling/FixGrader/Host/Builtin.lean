import FixGrader.Host.Condition
/-!
# Programs of the system

What the small programs of a system do, and the commands that a shell carries out itself.
-/
namespace FixGrader.Host.Shell

/-- The reason for a failure, without its number. -/
def reasonOf (e : FileError) : String :=
  (String.ofList (e.message.toList.takeWhile (· != '('))).trimAsciiEnd.toString

def tryHelp (program : String) : String := "Try '" ++ program ++ " --help' for more information.\n"

/-- Takes the whole input. -/
def takeInput : Sh ByteText := do
  let s ← get
  set { s with input := [] }
  return s.input

/-- Answers a condition. -/
def test (name : String) (args : List ByteText) : Sh Unit := do
  match Condition.holds (← get).disk args with
  | .ok answer => setStatus (if answer then 0 else 1)
  | .error e => report 2 (name ++ ": " ++ e.message)

/-- Writes files to the output, or the input if there are none. -/
def cat (args : List ByteText) : Sh Unit := do
  match args.find? fun a => ['-', '-'].isPrefixOf a with
  | some option =>
    if option = "--version".toList then answer "cat (GNU coreutils)\n".toList
    else fail 1 ("cat: unrecognized option '" ++ textOf option ++ "'\n" ++ tryHelp "cat")
  | none =>
    setStatus 0
    for a in (if args.isEmpty then [['-']] else args) do
      if a = ['-'] then print (← takeInput)
      else
        match (← get).readFile a with
        | .ok text => print text
        | .error e => fail 1 ("cat: " ++ textOf a ++ ": " ++ reasonOf e ++ "\n")

/-- Waits for some time. -/
def sleep (args : List ByteText) : Sh Unit := do
  match args with
  | [] => fail 1 ("sleep: missing operand\n" ++ tryHelp "sleep")
  | _ =>
    if args = ["--version".toList] then answer "sleep (GNU coreutils)\n".toList
    else
      match args.find? fun a => (Program.sleepTime? a).isNone with
      | none =>
        wait ((args.filterMap Program.sleepTime?).foldl (· + ·) 0)
        setStatus 0
      | some bad =>
        match bad with
        | '-' :: c :: _ =>
          fail 1 ("sleep: invalid option -- '" ++ textOf [c] ++ "'\n" ++ tryHelp "sleep")
        | _ => fail 1 ("sleep: invalid time interval '" ++ textOf bad ++ "'\n" ++ tryHelp "sleep")

/-- Writes what is taken of some files, or of the input if there are none. -/
def excerpt (name : String) (take : Program.Extent → ByteText → ByteText) (args : List ByteText) :
    Sh Unit := do
  let (extent, files) := Program.extentOf args
  setStatus 0
  for file in (if files.isEmpty then [['-']] else files) do
    if file = ['-'] then print (take extent (← takeInput))
    else
      let zeros := match extent with
        | .bytes n => if file = "/dev/zero".toList then some (List.replicate n '\x00') else none
        | .lines _ => none
      match zeros, (← get).readFile file with
      | some text, _ | none, .ok text => print (take extent text)
      | none, .error e =>
        fail 1 (name ++ ": cannot open '" ++ textOf file ++ "' for reading: " ++ reasonOf e ++ "\n")

/-- Counts the input, or the files that are named. -/
def countWords (args : List ByteText) : Sh Unit := do
  let option := (args.filter (·.head? = some '-')).findSome? (·[1]?)
  let files := args.filter (·.head? != some '-')
  setStatus 0
  if files.isEmpty then print (Program.wordCount option (← takeInput) [])
  for file in files do
    match (← get).readFile file with
    | .ok text => print (Program.wordCount option text file)
    | .error e => fail 1 ("wc: " ++ textOf file ++ ": " ++ reasonOf e ++ "\n")

/-- Lists the names in a directory, or a file. -/
def listNames (args : List ByteText) : Sh Unit := do
  let paths := args.filter (·.head? != some '-')
  setStatus 0
  for path in (if paths.isEmpty then [['.']] else paths) do
    let disk := (← get).disk
    match disk.locate (pathOf path) with
    | .error _ =>
      fail 2 ("ls: cannot access '" ++ textOf path ++ "': No such file or directory\n")
    | .ok place =>
      match disk.entry? place with
      | some (.file ..) => print (path ++ ['\n'])
      | some (.directory _) =>
        if args.contains ['-', 'd'] then print (path ++ ['\n'])
        else print ((matchingNames disk place [('*', false)]).flatMap (· ++ ['\n']))
      | none => fail 2 ("ls: cannot access '" ++ textOf path ++ "': No such file or directory\n")

/-- Makes directories. -/
def makeDirectories (args : List ByteText) : Sh Unit := do
  setStatus 0
  for a in args.filter (·.head? != some '-') do
    let s ← get
    match s.disk.locate (pathOf a) with
    | .ok place =>
      if (s.disk.entry? place).isSome && !args.contains ['-', 'p'] then
        fail 1 ("mkdir: cannot create directory '" ++ textOf a ++ "': File exists\n")
      else set { s with disk := s.disk.makeDirectories place }
    | .error e =>
      if args.contains ['-', 'p'] then
        let names := (textOf a).splitOn "/" |>.filter (· != "")
        set { s with disk := s.disk.makeDirectories (s.disk.cwd ++ names) }
      else fail 1 ("mkdir: cannot create directory '" ++ textOf a ++ "': " ++ reasonOf e ++ "\n")

/-- Takes files and directories away. -/
def remove (args : List ByteText) : Sh Unit := do
  setStatus 0
  let forced := args.any fun a => a.head? = some '-' && a.contains 'f'
  for a in args.filter (·.head? != some '-') do
    let s ← get
    let found := match s.disk.locate (pathOf a) with
      | .ok place => if (s.disk.entry? place).isSome then some place else none
      | .error _ => none
    match found with
    | some place => set { s with disk := s.disk.eraseUnder place }
    | none =>
      if !forced then
        fail 1 ("rm: cannot remove '" ++ textOf a ++ "': No such file or directory\n")

/-- Writes a text after a format. -/
def printf (args : List ByteText) : Sh Unit := do
  match args with
  | [] => report 2 "printf: usage: printf format [arg ...]"
  | fmt :: args =>
    let (text, faults) := Program.printf fmt args
    faults.forM fun (arg, fault) => report 1 ("printf: " ++ textOf arg ++ ": " ++ fault)
    print text
    setStatus (if faults.isEmpty then 0 else 1)

/-- Carries out a program of the system that is no shell. -/
def systemProgram (name : String) (args : List ByteText) : Sh Unit := do
  match name with
  | "true" => setStatus 0
  | "false" => setStatus 1
  | "echo" => answer (Program.systemEcho args)
  | "cat" => cat args
  | "sleep" => sleep args
  | "printf" => printf args
  | "test" => test "test" args
  | "[" => test "[" args.dropLast
  | "wc" => countWords args
  | "head" => excerpt "head" Program.head args
  | "tail" => excerpt "tail" Program.tail args
  | "tr" =>
    match Program.translate args (← takeInput) with
    | some text => answer text
    | none => fail 1 ("tr: missing operand\n" ++ tryHelp "tr")
  | "seq" =>
    match Program.sequence args with
    | some text => answer text
    | none => fail 1 ("seq: missing operand\n" ++ tryHelp "seq")
  | "basename" => answer (Program.baseName (args.headD []) ++ ['\n'])
  | "dirname" => answer (Program.directoryName (args.headD []) ++ ['\n'])
  | "ls" => listNames args
  | "pwd" => answer ((← get).cwdText ++ ['\n'])
  | "touch" =>
    args.forM fun a => appendFile (pathOf a) []
    setStatus 0
  | "mkdir" => makeDirectories args
  | "rm" => remove args
  | "env" =>
    (← get).environment.reverse.forM fun (name, value) => print (name ++ '=' :: value ++ ['\n'])
    setStatus 0
  | _ => setStatus 0

/-- Sets variables to the values behind their equals signs, if there are any. -/
def declare (exported : Bool) (args : List ByteText) : Sh Unit := do
  for a in args do
    let name := a.takeWhile (· != '=')
    if a.contains '=' then setVariable name (a.drop (name.length + 1))
    if exported then modify fun s => { s with exported := name :: s.exported }
  setStatus 0

/-- Sets options and parameters. -/
def setOptions : List ByteText → Sh Unit
  | [] => setStatus 0
  | arg :: rest => do
    match arg with
    | ['-', '-'] => modify fun s => { s with parameters := rest, status := 0 }
    | sign :: letter :: letters =>
      if sign = '-' ∨ sign = '+' then
        let step (o : Except Char ShellOptions) (c : Char) : Except Char ShellOptions := do
          match (← o).set? c (sign = '-') with
          | some o => return o
          | none => throw c
        match (letter :: letters).foldl step (.ok (← get).options) with
        | .ok options =>
          modify fun s => { s with options }
          setOptions rest
        | .error c => abort ("set: Illegal option " ++ textOf [sign, c])
      else modify fun s => { s with parameters := arg :: rest, status := 0 }
    | _ => modify fun s => { s with parameters := arg :: rest, status := 0 }

/-- The status that an argument names, or the last one. -/
def leave (name : String) (args : List ByteText) (halt : Nat → Halt) : Sh Unit := do
  match args with
  | [] => stop (halt (← get).status)
  | a :: _ =>
    match Arithmetic.ofDigits? 10 a with
    | some n =>
      setStatus (n % 256)
      stop (halt (n % 256))
    | none => abort (name ++ ": Illegal number: " ++ textOf a)

/-- Leaves as many loops as the argument says, but no more than there are. -/
def leaveLoops (args : List ByteText) (again : Bool) : Sh Unit := do
  let loops := (← get).loops
  let wanted := (Arithmetic.ofDigits? 10 (args.headD ['1'])).getD 1
  setStatus 0
  if loops != 0 then stop (.leave (min wanted loops) again)

def changeDirectory (args : List ByteText) : Sh Unit := do
  let s ← get
  let place := match s.disk.locate (pathOf (args.headD ['/'])) with
    | .ok place =>
      match s.disk.entry? place with
      | some (.directory _) => some place
      | _ => none
    | .error _ => none
  match place with
  | some place => set { s with disk := { s.disk with cwd := place }, status := 0 }
  | none => report 2 ("cd: can't cd to " ++ textOf (args.headD []))

/-- Gives the words of a line to names; the last name gets all that is left. -/
def assignWords : List ByteText → ByteText → Sh Unit
  | [], _ => return
  | [name], line => setVariable name (line.reverse.dropWhile Script.isBlank).reverse
  | name :: names, line => do
    let word := line.takeWhile fun c => !Script.isBlank c
    setVariable name word
    assignWords names ((line.drop word.length).dropWhile Script.isBlank)

/-- Reads a line of the input; the end of the input in it is a failure. -/
def readLine (args : List ByteText) : Sh Unit := do
  let names := args.filter fun a => a.head? != some '-'
  if names.isEmpty then report 2 "read: arg count"
  else
    let input := (← get).input
    let line := input.takeWhile (· != '\n')
    modify fun s => { s with input := input.drop (line.length + 1) }
    assignWords names (line.dropWhile Script.isBlank)
    setStatus (if line.length < input.length then 0 else 1)

/-- The signal that is named by a number or a name. -/
def signalOf (name : ByteText) : Nat :=
  match String.ofList name with
  | "EXIT" => 0
  | "HUP" | "SIGHUP" => 1
  | "INT" | "SIGINT" => 2
  | "QUIT" | "SIGQUIT" => 3
  | "ABRT" | "SIGABRT" => 6
  | "KILL" | "SIGKILL" => 9
  | "USR1" | "SIGUSR1" => 10
  | "SEGV" | "SIGSEGV" => 11
  | "PIPE" | "SIGPIPE" => 13
  | "ALRM" | "SIGALRM" => 14
  | "TERM" | "SIGTERM" => 15
  | _ => (Arithmetic.ofDigits? 10 name).getD 15

/-- Sends a signal, to the shell itself or to no one. -/
def kill (args : List ByteText) : Sh Unit := do
  let (signal, targets) := match args with
    | ['-', 's'] :: name :: rest => (signalOf name, rest)
    | ('-' :: name) :: rest => (signalOf name, rest)
    | rest => (15, rest)
  if targets.contains processId then
    setStatus 0
    match (← get).trapFor? signal with
    | some action => if !action.isEmpty then modify fun s => { s with pending := some action }
    | none => if signal != 0 then stop (.killed signal)
  else if targets.contains backgroundId then setStatus 0
  else report 1 "kill: No such process\n"

/-- Sets what is carried out for signals; a dash takes it away. -/
def setTraps (args : List ByteText) : Sh Unit := do
  match args with
  | action :: names =>
    let signals := names.map signalOf
    modify fun s =>
      let others := s.traps.filter fun t => !signals.contains t.1
      { s with traps := if action = ['-'] then others else signals.map (·, action) ++ others }
  | [] => return
  setStatus 0

/-- The names of the commands that a shell carries out itself. -/
def builtInNames : List String := [":", ".", "[", "break", "cd", "command", "continue", "echo",
  "eval", "exec", "exit", "export", "false", "kill", "printf", "pwd", "read", "readonly", "return",
  "set", "shift", "test", "trap", "true", "umask", "unset", "wait"]

/-- The commands whose failure ends a script. -/
def specialNames : List String := [":", ".", "break", "continue", "eval", "exec", "exit", "export",
  "readonly", "return", "set", "shift", "times", "trap", "unset"]

/-- The commands that a shell carries out itself and that start no other ones. -/
def builtIn? (name : String) (args : List ByteText) : Option (Sh Unit) :=
  match name with
  | ":" | "umask" | "true" => some (setStatus 0)
  | "echo" => some (answer (Program.shellEcho args))
  | "[" => some (if args.getLast? = some [']'] then test "[" args.dropLast
      else report 2 "[: missing ]")
  | "set" => some (setOptions args)
  | "trap" => some (setTraps args)
  | "export" => some (declare true args)
  | "readonly" | "local" => some (declare false args)
  | "unset" => some do
    modify fun s => {
      s with
      bindings := s.bindings.filter fun v => !args.contains v.1
      functions := s.functions.filter fun f => !args.contains f.1
      status := 0 }
  | "shift" => some do
    let s ← get
    let count := (Arithmetic.ofDigits? 10 (args.headD ['1'])).getD 1
    if s.parameters.length < count then abort "shift: can't shift that many"
    else set { s with parameters := s.parameters.drop count, status := 0 }
  | "exit" => some (leave "exit" args .exit)
  | "return" => some (leave "return" args .returned)
  | "break" => some (leaveLoops args false)
  | "continue" => some (leaveLoops args true)
  | "cd" => some (changeDirectory args)
  | "read" => some (readLine args)
  | "kill" => some (kill args)
  | "wait" => some (modify fun s => {
      s with
      elapsed := max s.elapsed s.backgroundEnd
      status := if args.contains backgroundId then s.backgroundStatus
        else if args.isEmpty then 0 else 127 })
  | _ => none

end FixGrader.Host.Shell
