import DartModels.Proofs.Cli.Request
import DartModels.Proofs.Project.Repetition

/-
The same request with force and without it, in its arguments and in what it names.
-/

namespace DartModels.Cli

open DartModels.Project
open DartModels.Project.Tree

/-! Drafts with force and without -/

def Settings.withForce (settings : Settings) (force : Bool) : Settings :=
  { settings with force := force }

def Draft.withForce (draft : Draft) (force : Bool) : Draft :=
  { draft with settings := draft.settings.withForce force }

def Progress.withForce (force : Bool) : Progress → Progress
  | .complete draft => .complete (draft.withForce force)
  | .waiting option draft => .waiting option (draft.withForce force)

/-- The option that waits for its value. -/
def Progress.waits : Progress → Option ValueOption
  | .complete _ => none
  | .waiting option _ => some option

variable {force : Bool} {draft : Draft}

theorem Draft.withForce_withForce (draft : Draft) (first second : Bool) :
    (draft.withForce first).withForce second = draft.withForce second := rfl

theorem Draft.setValue_withForce (option : ValueOption) (value : String) :
    (draft.withForce force).setValue option value =
      (draft.setValue option value).withForce force := by
  cases option <;> rfl

theorem Draft.setFlag_withForce {flag : Flag} (other : flag ≠ .force) :
    (draft.withForce force).setFlag flag = (draft.setFlag flag).withForce force := by
  cases flag with
  | force => contradiction
  | _ => rfl

/-! Single arguments -/

theorem readShort_withForce (letters : List Char) :
    readShort (draft.withForce force) letters =
      (readShort draft letters).map (Progress.withForce force) := by
  induction letters generalizing draft with
  | nil => rfl
  | cons letter rest ih =>
      rw [readShort, readShort]
      cases found : shortOption? letter with
      | none => rfl
      | some option =>
          cases option with
          | flag flag =>
              have other : flag ≠ .force := by
                rintro rfl
                exact Switch.force.short letter found
              dsimp only
              rw [Draft.setFlag_withForce other, ih]
          | value option =>
              dsimp only
              rw [Draft.setValue_withForce]
              split <;> rfl

theorem readLong_withForce {argument : List Char} (other : String.ofList argument ≠ "--force") :
    readLong (draft.withForce force) argument =
      (readLong draft argument).map (Progress.withForce force) := by
  unfold readLong
  dsimp only
  cases found : longOption? (String.ofList (argument.takeWhile (· != '='))) with
  | none => rfl
  | some option =>
      cases option with
      | flag flag =>
          dsimp only
          split
          · rfl
          next whole =>
            have own : flag ≠ .force := by
              rintro rfl
              rw [Nat.not_lt] at whole
              have spelled := Switch.force.long _ found
              rw [(List.takeWhile_prefix _).eq_of_length_le whole] at spelled
              exact other spelled
            rw [Draft.setFlag_withForce own]
            rfl
      | value option =>
          dsimp only
          rw [Draft.setValue_withForce]
          split <;> rfl

/-- An argument other than the word itself does the same with force and without. -/
theorem readArgument_withForce {argument : String} (other : argument ≠ "--force") :
    readArgument (draft.withForce force) argument =
      (readArgument draft argument).map (Progress.withForce force) := by
  unfold readArgument
  split
  next rest spelled =>
    apply readLong_withForce
    rwa [← spelled, String.ofList_toList]
  next => exact readShort_withForce _
  next => rfl

theorem readArgument_force (draft : Draft) :
    readArgument draft "--force" = some (.complete (draft.withForce true)) := rfl

/-- With force, the word itself does nothing more. -/
theorem readArgument_withForce_true (draft : Draft) (argument : String) :
    readArgument (draft.withForce true) argument =
      (readArgument draft argument).map (Progress.withForce true) := by
  by_cases word : argument = "--force"
  · rw [word, readArgument_force, readArgument_force]
    rfl
  · exact readArgument_withForce word

theorem waits_readShort (draft other : Draft) (letters : List Char) :
    (readShort draft letters).map Progress.waits =
      (readShort other letters).map Progress.waits := by
  induction letters generalizing draft other with
  | nil => rfl
  | cons letter rest ih =>
      rw [readShort, readShort]
      split
      · rfl
      · exact ih _ _
      · split <;> rfl

/-- Whether an argument waits for a value does not depend on what was read before it. -/
theorem waits_readArgument (draft other : Draft) (argument : String) :
    (readArgument draft argument).map Progress.waits =
      (readArgument other argument).map Progress.waits := by
  unfold readArgument
  split
  · unfold readLong
    dsimp only
    split
    · rfl
    · split <;> rfl
    · split <;> rfl
  · exact waits_readShort _ _ _
  · rfl

/-! All arguments -/

/-- Whether the next argument is the value of this one. -/
def takesValue (argument : String) : Bool :=
  ((readArgument Draft.empty argument).bind Progress.waits).isSome

/-- The arguments without the words that ask for force; a word that is a value or comes after the
options stays. -/
def withoutForce : List String → List String
  | [] => []
  | argument :: rest =>
      if argument = "--" then argument :: rest
      else if argument = "--force" then withoutForce rest
      else if takesValue argument then
        match rest with
        | [] => [argument]
        | value :: rest => argument :: value :: withoutForce rest
      else argument :: withoutForce rest

theorem withoutForce_cons (argument : String) (rest : List String) :
    withoutForce (argument :: rest) =
      if argument = "--" then argument :: rest
      else if argument = "--force" then withoutForce rest
      else if takesValue argument then
        match rest with
        | [] => [argument]
        | value :: rest => argument :: value :: withoutForce rest
      else argument :: withoutForce rest := by
  rw [withoutForce.eq_def]

/-- Without the word there is nothing to take away. -/
theorem withoutForce_of_notMem {arguments : List String} (unnamed : "--force" ∉ arguments) :
    withoutForce arguments = arguments := by
  fun_induction withoutForce arguments with
  | case1 => rfl
  | case2 => rfl
  | case3 => exact absurd List.mem_cons_self unnamed
  | case4 => rfl
  | case5 argument option other pair value rest ih =>
      rw [ih fun later => unnamed (List.mem_cons_of_mem _ (List.mem_cons_of_mem _ later))]
  | case6 argument rest option other single ih =>
      rw [ih fun later => unnamed (List.mem_cons_of_mem _ later)]

theorem readArguments_cons_of_complete {next : Draft} {argument : String} (rest : List String)
    (option : argument ≠ "--") (read : readArgument draft argument = some (.complete next)) :
    readArguments draft (argument :: rest) = readArguments next rest := by
  rw [readArguments, if_neg option, read]

theorem readArguments_cons_of_waiting {next : Draft} {argument value : String}
    {waiting : ValueOption} (rest : List String) (option : argument ≠ "--")
    (read : readArgument draft argument = some (.waiting waiting next)) :
    readArguments draft (argument :: value :: rest) =
      readArguments (next.setValue waiting value) rest := by
  rw [readArguments, if_neg option, read]

theorem takesValue_of_read {progress : Progress} {argument : String}
    (read : readArgument draft argument = some progress) :
    takesValue argument = progress.waits.isSome := by
  have same := waits_readArgument Draft.empty draft argument
  rw [read] at same
  obtain ⟨standard, own, waits⟩ := Option.map_eq_some_iff.mp same
  rw [takesValue, own, Option.bind_some, waits]

/-- Force from the start is force in the end. -/
theorem readArguments_withForce (draft : Draft) (arguments : List String) :
    readArguments (draft.withForce true) arguments =
      (readArguments draft arguments).map (Draft.withForce · true) := by
  fun_induction readArguments draft arguments with
  | case1 => rfl
  | case2 =>
      rw [readArguments, if_pos rfl]
      rfl
  | case3 draft argument rest option unread =>
      rw [readArguments, if_neg option, readArgument_withForce_true, unread]
      rfl
  | case4 draft argument rest option next read ih =>
      have forced := readArgument_withForce_true draft argument
      rw [read] at forced
      rw [readArguments_cons_of_complete rest option forced, ih]
  | case5 draft argument option waiting next read =>
      rw [readArguments, if_neg option, readArgument_withForce_true, read]
      rfl
  | case6 draft argument option waiting next read value rest ih =>
      have forced := readArgument_withForce_true draft argument
      rw [read] at forced
      rw [readArguments_cons_of_waiting rest option forced, Draft.setValue_withForce, ih]

/-- The word itself completes a draft. -/
theorem ne_force_of_incomplete {argument : String}
    (incomplete : ∀ next, readArgument draft argument ≠ some (.complete next)) :
    argument ≠ "--force" := by
  rintro rfl
  exact incomplete _ (readArgument_force draft)

theorem ne_force_of_waiting {argument : String} {option : ValueOption} {next : Draft}
    (read : readArgument draft argument = some (.waiting option next)) : argument ≠ "--force" :=
  ne_force_of_incomplete fun _ complete => nomatch read.symm.trans complete

theorem ne_force_of_unread {argument : String} (unread : readArgument draft argument = none) :
    argument ≠ "--force" :=
  ne_force_of_incomplete fun _ complete => nomatch unread.symm.trans complete

theorem withoutForce_of_complete {argument : String} {next : Draft} (rest : List String)
    (option : argument ≠ "--") (other : argument ≠ "--force")
    (read : readArgument draft argument = some (.complete next)) :
    withoutForce (argument :: rest) = argument :: withoutForce rest := by
  have single : takesValue argument = false := takesValue_of_read read
  rw [withoutForce_cons, if_neg option, if_neg other, single, if_neg Bool.false_ne_true]

theorem withoutForce_of_waiting {argument : String} {waiting : ValueOption} {next : Draft}
    (rest : List String) (option : argument ≠ "--")
    (read : readArgument draft argument = some (.waiting waiting next)) :
    withoutForce (argument :: rest) =
      match rest with
      | [] => [argument]
      | value :: rest => argument :: value :: withoutForce rest := by
  have pair : takesValue argument = true := takesValue_of_read read
  rw [withoutForce_cons, if_neg option, if_neg (ne_force_of_waiting read), if_pos pair]

/-- What cannot be read stays where it is. -/
theorem withoutForce_of_unread {argument : String} (rest : List String)
    (option : argument ≠ "--") (unread : readArgument draft argument = none) :
    ∃ later, withoutForce (argument :: rest) = argument :: later := by
  rw [withoutForce_cons, if_neg option, if_neg (ne_force_of_unread unread)]
  split
  · cases rest with
    | nil => exact ⟨_, rfl⟩
    | cons value rest => exact ⟨_, rfl⟩
  · exact ⟨_, rfl⟩

/-- Without its words, force is off in the end. -/
theorem readArguments_withoutForce (draft : Draft) (arguments : List String) :
    readArguments (draft.withForce false) (withoutForce arguments) =
      (readArguments draft arguments).map (Draft.withForce · false) := by
  fun_induction readArguments draft arguments with
  | case1 => rfl
  | case2 =>
      rw [withoutForce_cons, if_pos rfl, readArguments, if_pos rfl]
      rfl
  | case3 draft argument rest option unread =>
      obtain ⟨later, same⟩ := withoutForce_of_unread rest option unread
      have unforced : readArgument (draft.withForce false) argument = _ :=
        readArgument_withForce (ne_force_of_unread unread)
      rw [unread] at unforced
      rw [same, readArguments, if_neg option, unforced]
      rfl
  | case4 draft argument rest option next read ih =>
      by_cases word : argument = "--force"
      · subst word
        rw [readArgument_force] at read
        cases read
        rw [withoutForce_cons, if_neg option, if_pos rfl, ← ih, Draft.withForce_withForce]
      · have unforced : readArgument (draft.withForce false) argument = _ :=
          readArgument_withForce word
        rw [read] at unforced
        rw [withoutForce_of_complete rest option word read,
          readArguments_cons_of_complete _ option unforced, ih]
  | case5 draft argument option waiting next read =>
      have unforced : readArgument (draft.withForce false) argument = _ :=
        readArgument_withForce (ne_force_of_waiting read)
      rw [read] at unforced
      rw [withoutForce_of_waiting [] option read, readArguments, if_neg option, unforced]
      rfl
  | case6 draft argument option waiting next read value rest ih =>
      have unforced : readArgument (draft.withForce false) argument = _ :=
        readArgument_withForce (ne_force_of_waiting read)
      rw [read] at unforced
      rw [withoutForce_of_waiting (value :: rest) option read,
        readArguments_cons_of_waiting _ option unforced, Draft.setValue_withForce, ih]

/-! Requests -/

def Request.withForce (request : Request) (force : Bool) : Request :=
  { request with settings := request.settings.withForce force }

def Inputs.withForce (inputs : Inputs) (force : Bool) : Inputs :=
  { inputs with settings := inputs.settings.withForce force }

/-- The word in front asks for force and for nothing else. -/
theorem ofArguments_force_cons (arguments : List String) :
    Request.ofArguments ("--force" :: arguments) =
      (Request.ofArguments arguments).map (Request.withForce · true) := by
  have option : "--force" ≠ "--" := by decide
  rw [Request.ofArguments, readArguments_cons_of_complete arguments option (readArgument_force _),
    readArguments_withForce, Request.ofArguments, Option.map_map, Option.map_map]
  rfl

/-- Without its words the request is the same without force. -/
theorem ofArguments_withoutForce (arguments : List String) :
    Request.ofArguments (withoutForce arguments) =
      (Request.ofArguments arguments).map (Request.withForce · false) := by
  have standard : Draft.empty.withForce false = Draft.empty := rfl
  rw [Request.ofArguments, ← standard, readArguments_withoutForce, Request.ofArguments,
    Option.map_map, Option.map_map]
  rfl

/-! What a request names in a tree that keeps what it has -/

variable {workingDirectory location : Location} {tree after : Tree} {request : Request}
  {inputs : Inputs}

/-- A named location is accepted again. -/
theorem namedLocation_again {path : String} {isAccepted accepts : Location → Bool}
    (again : isAccepted location = true → accepts location = true)
    (named : namedLocation workingDirectory isAccepted path = .ok location) :
    namedLocation workingDirectory accepts path = .ok location := by
  obtain ⟨found, checked, accepted⟩ := bind_eq_ok.mp named
  refine bind_eq_ok.mpr ⟨found, checked, ?_⟩
  split at accepted
  next isOn =>
    obtain rfl := Except.ok.inj accepted
    rw [if_pos (again isOn)]
    rfl
  next => cases accepted

theorem mapM_namedLocation_again {path? : Option String} {location? : Option Location}
    {isAccepted accepts : Location → Bool}
    (again : ∀ location ∈ location?, isAccepted location = true → accepts location = true)
    (named : path?.mapM (namedLocation workingDirectory isAccepted) = .ok location?) :
    path?.mapM (namedLocation workingDirectory accepts) = .ok location? := by
  cases path? with
  | none => exact named
  | some path =>
      obtain ⟨location, found, same⟩ := bind_eq_ok.mp named
      cases same
      exact bind_eq_ok.mpr ⟨location, namedLocation_again (again location rfl) found, rfl⟩

theorem files_eq_ok_iff {settings : Settings} {config overrides : Option Location} :
    settings.files workingDirectory tree = .ok (config, overrides) ↔
      settings.config.mapM (namedLocation workingDirectory tree.contains) = .ok config ∧
        settings.overrides.mapM (namedLocation workingDirectory tree.contains) =
          .ok overrides := by
  unfold Settings.files
  dsimp only
  constructor
  · intro ok
    split at ok
    · obtain ⟨_, first, ok⟩ := bind_eq_ok.mp ok
      obtain ⟨_, second, ok⟩ := bind_eq_ok.mp ok
      cases ok
      exact ⟨second, first⟩
    · obtain ⟨_, first, ok⟩ := bind_eq_ok.mp ok
      obtain ⟨_, second, ok⟩ := bind_eq_ok.mp ok
      cases ok
      exact ⟨first, second⟩
  · rintro ⟨first, second⟩
    split
    · exact bind_eq_ok.mpr ⟨_, second, bind_eq_ok.mpr ⟨_, first, rfl⟩⟩
    · exact bind_eq_ok.mpr ⟨_, first, bind_eq_ok.mpr ⟨_, second, rfl⟩⟩

/-- A tree that keeps what it has and the output directory completes the same inputs, with force
and without. -/
theorem inputs_again (keeps : Keeps tree after)
    (isDirectory : after.isDirectory inputs.outputDirectory = true)
    (ok : request.inputs workingDirectory tree = .ok inputs) (force : Bool) :
    (request.withForce force).inputs workingDirectory after = .ok (inputs.withForce force) := by
  obtain ⟨files, document, outputDirectory, single, settings⟩ := inputs_eq_ok_iff.mp ok
  obtain ⟨config, overrides⟩ := files_eq_ok_iff.mp files
  refine inputs_eq_ok_iff.mpr ⟨files_eq_ok_iff.mpr ⟨?_, ?_⟩, ?_, ?_, single, ?_⟩
  · exact mapM_namedLocation_again (fun _ _ => keeps.contains) config
  · exact mapM_namedLocation_again (fun _ _ => keeps.contains) overrides
  · exact mapM_namedLocation_again (fun location _ => keeps.files location) document
  · refine mapM_namedLocation_again ?_ outputDirectory
    rintro location ⟨⟩ -
    rw [Bool.not_eq_true', Bool.eq_false_iff]
    intro file
    obtain ⟨content, there⟩ := isFile_iff.mp file
    exact nomatch there.symm.trans (fileAt?_of_isDirectory isDirectory)
  · rw [Inputs.withForce, settings]
    rfl

end DartModels.Cli
