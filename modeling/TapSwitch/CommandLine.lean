import Mathlib.Data.List.Induction

set_option autoImplicit false

/-!
# The command line (`tapswitch.cc`)

`process_command_line()` scans the arguments from left to right and stops at the first
one that asks for something else than running, or that is wrong.  The message library,
which knows the verbosity levels and their names, is a parameter.

Over the scanner stands the grammar: a command line is a list of options followed by an
ending.  Every list of words is a command line in exactly one way, and the scanner
returns what the options and the ending mean.
-/

namespace TapSwitch

/-- What is used of the message library: the levels named in the source, the level of each
name, `MESSAGE_LEVEL_IMPOSSIBLE` if there is none, and all names. -/
structure Messages (L : Type) where
  levelNormal : L
  levelQuiet : L
  levelImpossible : L
  verboseLevelNameToLevel : String → L
  verboseLevelNames : List String

/-- `struct parameters` -/
structure Parameters (L : Type) where
  verboseLevel : L
  runInForeground : Bool
  connectToSessionDbus : Bool
  deriving DecidableEq, Repr

/-- What `process_command_line()` returns, leaves behind, and prints to `stderr`. -/
structure Processed (L : Type) where
  result : Int
  parameters : Parameters L
  stderr : String
  deriving DecidableEq, Repr

/-- `check_argument()`: is there one more argument, and the index of it. -/
def checkArgument (argc i : Nat) : Bool × Nat :=
  if i + 1 ≥ argc then (false, i) else (true, i + 1)

theorem le_checkArgument (argc i : Nat) : i ≤ (checkArgument argc i).2 := by
  unfold checkArgument
  split
  · exact Nat.le_refl i
  · exact Nat.le_succ i

/-- What `check_argument()` prints if there is none. -/
def missingArgument (option : String) : String :=
  "Option " ++ option ++ " requires an argument.\n"

variable {L : Type}

/-- What is printed about a level that does not exist. -/
def invalidVerbosity (messages : Messages L) (name : String) : String :=
  "Invalid verbosity \"" ++ name ++ "\". Valid verbosity levels are:\n" ++
    String.join (messages.verboseLevelNames.map fun name => "    " ++ name ++ "\n")

/-- What is printed about an option that does not exist. -/
def unknownOption (word : String) : String :=
  "Unknown option \"" ++ word ++ "\". Please try --help.\n"

variable [DecidableEq L]

/-- The loop of `process_command_line()`, from the argument with the given index on.  Reading
an argument that is not there would be undefined. -/
def processFrom (messages : Messages L) (argv : List String) (i : Nat)
    (parameters : Parameters L) : Option (Processed L) :=
  if i < argv.length then
    match argv[i]? with
    | none => none
    | some arg =>
        if arg = "--help" then some ⟨1, parameters, ""⟩
        else if arg = "--version" then some ⟨2, parameters, ""⟩
        else if arg = "--fg" then
          processFrom messages argv (i + 1) { parameters with runInForeground := true }
        else if arg = "--verbose" then
          let check := checkArgument argv.length i
          if !check.1 then some ⟨-1, parameters, missingArgument arg⟩
          else
            match argv[check.2]? with
            | none => none
            | some name =>
                let parameters :=
                  { parameters with verboseLevel := messages.verboseLevelNameToLevel name }
                if parameters.verboseLevel = messages.levelImpossible then
                  some ⟨-1, parameters, invalidVerbosity messages name⟩
                else processFrom messages argv (check.2 + 1) parameters
        else if arg = "--quiet" then
          processFrom messages argv (i + 1) { parameters with verboseLevel := messages.levelQuiet }
        else if arg = "--session-dbus" then
          processFrom messages argv (i + 1) { parameters with connectToSessionDbus := true }
        else if arg = "--system-dbus" then
          processFrom messages argv (i + 1) { parameters with connectToSessionDbus := false }
        else some ⟨-1, parameters, unknownOption arg⟩
  else some ⟨0, parameters, ""⟩
termination_by argv.length - i
decreasing_by
  all_goals
    have hcheck := le_checkArgument argv.length i
    omega

/-- `process_command_line()` -/
def processCommandLine (messages : Messages L) (argv : List String) : Option (Processed L) :=
  processFrom messages argv 1 ⟨messages.levelNormal, false, true⟩

/-- `setup()`: does it succeed?  `daemonized` and `loopCreated` say whether `daemon()` and
`g_main_loop_new()` do. -/
def setup (parameters : Parameters L) (daemonized loopCreated : Bool) : Bool :=
  (parameters.runInForeground || daemonized) && loopCreated

/-- What comes of `main()` before `dbus_setup()`: it exits with a status, or goes on with the
session bus or not. -/
inductive Launch where
  | exited (status : Nat)
  | started (sessionBus : Bool)
  deriving DecidableEq, Repr

/-- `main()` up to `dbus_setup()` -/
def launch (messages : Messages L) (argv : List String) (daemonized loopCreated : Bool) :
    Option Launch := do
  let processed ← processCommandLine messages argv
  if processed.result = -1 then return .exited 1
  else if processed.result = 1 then return .exited 0
  else if processed.result = 2 then return .exited 0
  else if setup processed.parameters daemonized loopCreated then
    return .started processed.parameters.connectToSessionDbus
  else return .exited 1

/-! ## The grammar -/

/-- The options that do not end the scan. -/
inductive CommandOption where
  | foreground
  | verbose (level : String)
  | quiet
  | sessionDbus
  | systemDbus
  deriving DecidableEq, Repr

/-- What comes after these options.  Nothing that follows an ending is looked at. -/
inductive Ending where
  | complete
  | help (rest : List String)
  | version (rest : List String)
  /-- The last option lacks its argument. -/
  | missing
  | invalid (level : String) (rest : List String)
  | unknown (word : String) (rest : List String)
  deriving DecidableEq, Repr

/-- The words that mean something. -/
def knownWords : List String :=
  ["--help", "--version", "--fg", "--verbose", "--quiet", "--session-dbus", "--system-dbus"]

namespace CommandOption

def words : CommandOption → List String
  | .foreground => ["--fg"]
  | .verbose level => ["--verbose", level]
  | .quiet => ["--quiet"]
  | .sessionDbus => ["--session-dbus"]
  | .systemDbus => ["--system-dbus"]

/-- The level exists. -/
def Valid (messages : Messages L) : CommandOption → Prop
  | .verbose level => messages.verboseLevelNameToLevel level ≠ messages.levelImpossible
  | _ => True

/-- What the option changes. -/
def apply (messages : Messages L) (parameters : Parameters L) :
    CommandOption → Parameters L
  | .foreground => { parameters with runInForeground := true }
  | .verbose level =>
      { parameters with verboseLevel := messages.verboseLevelNameToLevel level }
  | .quiet => { parameters with verboseLevel := messages.levelQuiet }
  | .sessionDbus => { parameters with connectToSessionDbus := true }
  | .systemDbus => { parameters with connectToSessionDbus := false }

end CommandOption

namespace Ending

def words : Ending → List String
  | .complete => []
  | .help rest => "--help" :: rest
  | .version rest => "--version" :: rest
  | .missing => ["--verbose"]
  | .invalid level rest => "--verbose" :: level :: rest
  | .unknown word rest => word :: rest

/-- The level does not exist, or the word does not mean anything. -/
def Valid (messages : Messages L) : Ending → Prop
  | .invalid level _ => messages.verboseLevelNameToLevel level = messages.levelImpossible
  | .unknown word _ => word ∉ knownWords
  | _ => True

/-- What is returned in the end, after options that have led to the given parameters. -/
def processed (messages : Messages L) (parameters : Parameters L) : Ending → Processed L
  | .complete => ⟨0, parameters, ""⟩
  | .help _ => ⟨1, parameters, ""⟩
  | .version _ => ⟨2, parameters, ""⟩
  | .missing => ⟨-1, parameters, missingArgument "--verbose"⟩
  | .invalid level _ =>
      ⟨-1, { parameters with verboseLevel := messages.levelImpossible },
        invalidVerbosity messages level⟩
  | .unknown word _ => ⟨-1, parameters, unknownOption word⟩

/-- Whether the program starts. -/
def launched (parameters : Parameters L) (daemonized loopCreated : Bool) : Ending → Launch
  | .complete =>
      if setup parameters daemonized loopCreated then
        .started parameters.connectToSessionDbus
      else .exited 1
  | .help _ | .version _ => .exited 0
  | .missing | .invalid .. | .unknown .. => .exited 1

end Ending

/-- The words are the options followed by the ending. -/
structure Reads (messages : Messages L) (words : List String) (options : List CommandOption)
    (ending : Ending) : Prop where
  options_valid : ∀ option ∈ options, option.Valid messages
  ending_valid : ending.Valid messages
  words_eq : words = options.flatMap CommandOption.words ++ ending.words

/-- Read the words from left to right. -/
def readWords (messages : Messages L) : List String → List CommandOption × Ending
  | [] => ([], .complete)
  | word :: rest =>
      let followedBy (option : CommandOption) (more : List CommandOption × Ending) :=
        (option :: more.1, more.2)
      if word = "--help" then ([], .help rest)
      else if word = "--version" then ([], .version rest)
      else if word = "--fg" then followedBy .foreground (readWords messages rest)
      else if word = "--verbose" then
        match rest with
        | [] => ([], .missing)
        | level :: rest =>
            if messages.verboseLevelNameToLevel level = messages.levelImpossible then
              ([], .invalid level rest)
            else followedBy (.verbose level) (readWords messages rest)
      else if word = "--quiet" then followedBy .quiet (readWords messages rest)
      else if word = "--session-dbus" then followedBy .sessionDbus (readWords messages rest)
      else if word = "--system-dbus" then followedBy .systemDbus (readWords messages rest)
      else ([], .unknown word rest)

variable {messages : Messages L} {words : List String} {options : List CommandOption}
  {ending : Ending}

/-- Whatever is to be read can be read. -/
theorem readWords_of_reads (h : Reads messages words options ending) :
    readWords messages words = (options, ending) := by
  obtain ⟨hoptions, hending, rfl⟩ := h
  induction options with
  | nil =>
      rw [List.flatMap_nil, List.nil_append]
      cases ending with
      | complete => rfl
      | help | version | missing =>
          unfold Ending.words readWords
          simp
      | invalid level rest =>
          simp only [Ending.Valid] at hending
          unfold Ending.words readWords
          simp [hending]
      | unknown word rest =>
          simp only [Ending.Valid, knownWords, List.mem_cons, List.not_mem_nil, or_false,
            not_or] at hending
          unfold Ending.words readWords
          simp [hending]
  | cons option more ih =>
      have hmore := ih fun o ho => hoptions o (List.mem_cons_of_mem _ ho)
      have hvalid := hoptions option List.mem_cons_self
      rw [List.flatMap_cons, List.append_assoc]
      cases option with
      | foreground | quiet | sessionDbus | systemDbus =>
          simp only [CommandOption.words, List.singleton_append]
          unfold readWords
          simp [hmore]
      | verbose level =>
          simp only [CommandOption.Valid] at hvalid
          simp only [CommandOption.words, List.cons_append, List.nil_append]
          unfold readWords
          simp [hmore, hvalid]

omit [DecidableEq L] in
/-- Reading one more option. -/
theorem Reads.cons (h : Reads messages words options ending) (option : CommandOption)
    (hvalid : option.Valid messages) :
    Reads messages (option.words ++ words) (option :: options) ending where
  options_valid := List.forall_mem_cons.mpr ⟨hvalid, h.options_valid⟩
  ending_valid := h.ending_valid
  words_eq := by rw [h.words_eq, List.flatMap_cons, List.append_assoc]

omit [DecidableEq L] in
/-- Reading no option. -/
theorem Reads.ends (ending : Ending) (hvalid : ending.Valid messages) :
    Reads messages ending.words [] ending where
  options_valid := fun _ hmem => absurd hmem List.not_mem_nil
  ending_valid := hvalid
  words_eq := rfl

/-- Everything can be read. -/
theorem reads_readWords (messages : Messages L) (words : List String) :
    Reads messages words (readWords messages words).1 (readWords messages words).2 := by
  fun_induction readWords messages words with
  | case1 => exact Reads.ends .complete trivial
  | case2 rest => exact Reads.ends (.help rest) trivial
  | case3 rest => exact Reads.ends (.version rest) trivial
  | case4 rest _ _ _ ih => exact ih.cons .foreground trivial
  | case5 => exact Reads.ends .missing trivial
  | case6 level rest hlevel => exact Reads.ends (.invalid level rest) hlevel
  | case7 _ level rest hlevel _ _ _ ih => exact ih.cons (.verbose level) hlevel
  | case8 rest _ _ _ _ _ ih => exact ih.cons .quiet trivial
  | case9 rest _ _ _ _ _ _ ih => exact ih.cons .sessionDbus trivial
  | case10 rest _ _ _ _ _ _ _ ih => exact ih.cons .systemDbus trivial
  | case11 word rest =>
      apply Reads.ends (.unknown word rest)
      simp only [Ending.Valid, knownWords, List.mem_cons, List.not_mem_nil]
      grind

/-! ## What the options mean -/

/-- The level an option sets. -/
def CommandOption.level? (messages : Messages L) : CommandOption → Option L
  | .verbose level => some (messages.verboseLevelNameToLevel level)
  | .quiet => some messages.levelQuiet
  | _ => none

/-- The bus an option selects, the session bus if true. -/
def CommandOption.bus? : CommandOption → Option Bool
  | .sessionDbus => some true
  | .systemDbus => some false
  | _ => none

/-- Each parameter is what the last option about it says. -/
def settings (messages : Messages L) (options : List CommandOption) : Parameters L where
  verboseLevel :=
    ((options.filterMap (CommandOption.level? messages)).getLast?).getD messages.levelNormal
  runInForeground := .foreground ∈ options
  connectToSessionDbus := ((options.filterMap CommandOption.bus?).getLast?).getD true

omit [DecidableEq L] in
/-- One more option overrides those before it. -/
theorem settings_concat (messages : Messages L) (options : List CommandOption)
    (option : CommandOption) :
    settings messages (options ++ [option]) =
      CommandOption.apply messages (settings messages options) option := by
  unfold settings CommandOption.apply
  cases option <;>
    simp [List.filterMap_append, CommandOption.level?, CommandOption.bus?]

omit [DecidableEq L] in
/-- Applying the options in turn. -/
theorem foldl_apply_eq_settings (messages : Messages L) (options : List CommandOption) :
    options.foldl (CommandOption.apply messages) (settings messages []) =
      settings messages options := by
  induction options using List.reverseRecOn with
  | nil => rfl
  | append_singleton options option ih =>
      rw [List.foldl_append, List.foldl_cons, List.foldl_nil, ih, settings_concat]

/-! ## The scanner -/

/-- The scanner takes the options one after the other, and then comes to the ending. -/
theorem processFrom_reads (h : Reads messages words options ending) (before : List String)
    (parameters : Parameters L) :
    processFrom messages (before ++ words) before.length parameters =
      some (ending.processed messages
        (options.foldl (CommandOption.apply messages) parameters)) := by
  obtain ⟨hoptions, hending, rfl⟩ := h
  induction options generalizing before parameters with
  | nil =>
      rw [List.flatMap_nil, List.nil_append, List.foldl_nil]
      unfold processFrom
      cases ending with
      | complete => simp [Ending.words, Ending.processed]
      | help | version => simp [Ending.words, Ending.processed]
      | missing => simp [Ending.words, Ending.processed, checkArgument]
      | invalid level rest =>
          simp only [Ending.Valid] at hending
          simp [Ending.words, Ending.processed, checkArgument, hending]
      | unknown word rest =>
          simp only [Ending.Valid, knownWords, List.mem_cons, List.not_mem_nil, or_false,
            not_or] at hending
          simp [Ending.words, Ending.processed, hending]
  | cons option more ih =>
      have hvalid := hoptions option List.mem_cons_self
      have hnext := ih (before ++ option.words) (CommandOption.apply messages parameters option)
        fun o ho => hoptions o (List.mem_cons_of_mem _ ho)
      rw [List.flatMap_cons, List.append_assoc, List.foldl_cons]
      rw [List.append_assoc, List.length_append] at hnext
      rw [← hnext]
      cases option with
      | foreground | quiet | sessionDbus | systemDbus =>
          conv_lhs => unfold processFrom
          simp [CommandOption.words, CommandOption.apply]
      | verbose level =>
          simp only [CommandOption.Valid] at hvalid
          conv_lhs => unfold processFrom
          simp [CommandOption.words, CommandOption.apply, checkArgument, hvalid]

/-- What the scanner returns, argument zero being the program. -/
theorem processCommandLine_of_reads {argv : List String}
    (h : Reads messages argv.tail options ending) :
    processCommandLine messages argv =
      some (ending.processed messages (settings messages options)) := by
  rw [← foldl_apply_eq_settings]
  cases argv with
  | nil =>
      have hread := readWords_of_reads h
      obtain ⟨rfl, rfl⟩ := Prod.mk.inj hread
      unfold processCommandLine processFrom
      rfl
  | cons program words => exact processFrom_reads h [program] (settings messages [])

/-- Whether the program starts depends on the ending, and on the parameters if there is
none. -/
theorem launch_of_reads {argv : List String} (h : Reads messages argv.tail options ending)
    (daemonized loopCreated : Bool) :
    launch messages argv daemonized loopCreated =
      some (ending.launched (settings messages options) daemonized loopCreated) := by
  unfold launch
  rw [processCommandLine_of_reads h]
  cases ending with
  | complete =>
      unfold Ending.launched
      rw [apply_ite some]
      rfl
  | help | version | missing | invalid | unknown => rfl

/-- Every command line has exactly one reading.  The scanner never reads past the end of it,
and returns what the ending means after the parameters that the options set; so does
`main()`. -/
theorem processCommandLine_reads (messages : Messages L) (argv : List String) :
    (∃! reading : List CommandOption × Ending, Reads messages argv.tail reading.1 reading.2) ∧
      ∀ options ending, Reads messages argv.tail options ending →
        processCommandLine messages argv =
          some (ending.processed messages (settings messages options)) ∧
        ∀ daemonized loopCreated, launch messages argv daemonized loopCreated =
          some (ending.launched (settings messages options) daemonized loopCreated) := by
  refine ⟨⟨readWords messages argv.tail, reads_readWords messages argv.tail, ?_⟩, ?_⟩
  · intro reading hreading
    exact (readWords_of_reads hreading).symm
  · intro options ending h
    exact ⟨processCommandLine_of_reads h, launch_of_reads h⟩

end TapSwitch
