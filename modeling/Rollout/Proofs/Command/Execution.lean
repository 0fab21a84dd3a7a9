import Rollout.Command.Execute
import Rollout.Proofs.Backend.Preparation
import Rollout.Proofs.Backend.Scratch
import Rollout.Scenario.Encode

/-!
# Execution

An execution that comes to its actions runs those that the trigger selects, in their order, until one
fails. What it leaves in the scratch folder is a file for each action that it came to, as far as the system
takes the file's name (`execute_selected`).
-/

namespace Rollout

open Text

/-! ## Selected actions -/

namespace Action

variable {action : Action} {trigger : String}

def Selected (trigger : String) (action : Action) : Prop :=
  trigger = "" ∨ (∀ c ∈ action.containers, c.state = "running") ∨ trigger.toList <:+ action.name.toList

instance (trigger : String) : DecidablePred (Selected trigger) :=
  fun action => inferInstanceAs (Decidable (trigger = "" ∨
    (∀ c ∈ action.containers, c.state = "running") ∨ trigger.toList <:+ action.name.toList))

theorem state_eq_iff : action.state = defaultState ↔ ∀ c ∈ action.containers, c.state = "running" := by
  unfold state
  cases h : (action.containers.map (·.state)).find? (· ≠ defaultState) with
  | none =>
    rw [List.find?_eq_none, List.forall_mem_map] at h
    exact ⟨fun _ c hc => not_not.1 fun hn => h c hc (decide_eq_true hn), fun _ => rfl⟩
  | some other =>
    have ho := List.find?_some h
    have hm := List.mem_of_find?_eq_some h
    obtain ⟨c, hc, rfl⟩ := List.mem_map.1 hm
    simp only [ne_eq, decide_not, Bool.not_eq_eq_eq_not, Bool.not_true, decide_eq_false_iff_not] at ho
    exact ⟨fun he => absurd he ho, fun ha => absurd (ha c hc) ho⟩

theorem matchesTrigger_iff : action.matchesTrigger trigger = true ↔ action.Selected trigger := by
  rw [matchesTrigger, Bool.or_eq_true, Bool.or_eq_true, String.isEmpty_iff, decide_eq_true_iff,
    state_eq_iff, endsWith_iff, or_assoc]
  rfl

end Action

/-! ## Attempts -/

/-- The call for an action whose variables are in a file. -/
def Action.call (a : Action) (variablesFile : String) : Call :=
  ⟨a.arguments variablesFile, a.extraVars.compact⟩

/-- Whether the system takes the arguments of a call. -/
def Call.startable (call : Call) : Bool :=
  call.arguments.all fun a => !a.toList.contains '\x00' && byteLength a.toList ≤ argumentLimit

theorem Call.startable_iff (call : Call) : call.startable = true ↔
    (call.arguments.any (·.toList.contains '\x00')) = false ∧
      (call.arguments.any fun a => argumentLimit < byteLength a.toList) = false := by
  simp only [startable, List.all_eq_true, List.any_eq_false, Bool.and_eq_true, Bool.not_eq_true',
    Bool.not_eq_true, decide_eq_true_iff, Nat.not_lt, forall_and]

theorem Call.start_eq_ok {call : Call} (h : call.startable = true) (status : UInt8) :
    call.start (.exited status) = .ok status := by
  obtain ⟨zero, long⟩ := call.startable_iff.1 h
  unfold start
  rw [zero, if_neg Bool.false_ne_true]
  simp only [long, Bool.false_eq_true, if_false]

theorem Call.start_eq_error {call : Call} (h : call.startable = false) (status : UInt8) :
    ∃ e, call.start (.exited status) = .error e := by
  rw [Bool.eq_false_iff, ne_eq, startable_iff, not_and, Bool.not_eq_false] at h
  unfold start
  split
  · exact ⟨_, rfl⟩
  · rename_i zero
    simp only [h (Bool.eq_false_iff.2 zero), if_true]
    exact ⟨_, rfl⟩

namespace Backend

variable {backend : Backend} {answer : Answer} {id : String} {scratch : Scratch}
  {files written : FileTree} {path : String} {a : Action}

theorem run_of_write_error {e : BackendError}
    (h : scratch.write files a.suffix "json" id a.extraVars.compact = .error e) :
    backend.run answer id scratch files a = ⟨files, none, .error e⟩ := by
  unfold run
  simp only [h]

theorem run_of_start_error {e : StartError}
    (hw : scratch.write files a.suffix "json" id a.extraVars.compact = .ok (written, path))
    (hs : (a.call path).start answer = .error e) :
    backend.run answer id scratch files a = ⟨written, none, .error (.start e)⟩ := by
  rw [Action.call] at hs
  unfold run
  simp only [hw, hs]

theorem run_of_start_ok {status : UInt8}
    (hw : scratch.write files a.suffix "json" id a.extraVars.compact = .ok (written, path))
    (hs : (a.call path).start answer = .ok status) :
    ∃ result, backend.run answer id scratch files a = ⟨written, some (a.call path), result⟩ ∧
      (result = .ok () ↔ status = 0) := by
  rw [Action.call] at hs ⊢
  unfold run
  simp only [hw, hs]
  split
  · rename_i he
    cases he
  · rename_i he
    cases he
    exact ⟨_, rfl, fun _ => rfl, fun _ => rfl⟩
  · rename_i nonzero he
    cases he
    exact ⟨_, rfl, nofun, fun h => (nonzero h).elim⟩

end Backend

/-- How far the run of an action comes. -/
inductive Attempt where
  /-- The action's scratch file is not written. -/
  | unwritten
  | unstarted (call : Call)
  | ended (call : Call) (status : UInt8)

namespace Attempt

def call? : Attempt → Option Call
  | .ended call _ => some call
  | _ => none

/-- The call that a scratch file was written for. -/
def prepared? : Attempt → Option Call
  | .unwritten => none
  | .unstarted call | .ended call _ => some call

def succeeds : Attempt → Bool
  | .ended _ status => status = 0
  | _ => false

/-- The attempts up to the first that does not succeed. -/
def untilFailure : List Attempt → List Attempt
  | [] => []
  | attempt :: rest => attempt :: if attempt.succeeds then untilFailure rest else []

end Attempt

namespace Scratch

variable {s : Scratch} {files : FileTree} {folder : List String} {suffix id : String}

/-- What running an action comes to if the program ends with a status. -/
def attempt (s : Scratch) (suffix id : String) (status : UInt8) (a : Action) : Attempt :=
  let call := a.call (s.pathFor suffix "json" id)
  if s.takes suffix "json" id then
    if call.startable then .ended call status else .unstarted call
  else .unwritten

/-- The file that an attempt leaves. -/
def left (folder : List String) (suffix id : String) (attempt : Attempt) :
    Option (List String × FileItem) :=
  attempt.prepared?.map fun call => entry folder suffix "json" id call.extraVars

theorem run_attempt (backend : Backend) (status : UInt8) {action : Action}
    (hl : files.locateFolder s.root = .ok folder)
    (hn : FileTree.IsFileName (fileName suffix "json" id))
    (hu : ∀ item, (folder ++ [fileName suffix "json" id], item) ∉ files.items)
    (hs : action.suffix = suffix) :
    let run := backend.run (.exited status) id s files action
    run.files = files.add (left folder suffix id (s.attempt suffix id status action)).toList ∧
      run.call = (s.attempt suffix id status action).call? ∧
      (run.result = .ok () ↔ (s.attempt suffix id status action).succeeds = true) := by
  subst hs
  cases ht : s.takes action.suffix "json" id with
  | false =>
    obtain ⟨e, he⟩ := write_eq_error hl hn ht action.extraVars.compact
    have unwritten : s.attempt action.suffix id status action = .unwritten := by
      rw [attempt, ht, if_neg Bool.false_ne_true]
    rw [Backend.run_of_write_error he, unwritten]
    exact ⟨(FileTree.add_nil files).symm, rfl, nofun, nofun⟩
  | true =>
    have written := write_eq_ok hl hn ht hu action.extraVars.compact
    cases hb : (action.call (s.pathFor action.suffix "json" id)).startable with
    | false =>
      obtain ⟨e, he⟩ := Call.start_eq_error hb status
      have unstarted : s.attempt action.suffix id status action =
          .unstarted (action.call (s.pathFor action.suffix "json" id)) := by
        rw [attempt, ht, if_pos rfl, hb, if_neg Bool.false_ne_true]
      rw [Backend.run_of_start_error written he, unstarted]
      exact ⟨rfl, rfl, nofun, nofun⟩
    | true =>
      have ended : s.attempt action.suffix id status action =
          .ended (action.call (s.pathFor action.suffix "json" id)) status := by
        rw [attempt, ht, if_pos rfl, hb, if_pos rfl]
      obtain ⟨result, hr, zero⟩ := Backend.run_of_start_ok written (Call.start_eq_ok hb status)
      rw [hr, ended]
      exact ⟨rfl, rfl, zero.trans decide_eq_true_iff.symm⟩

end Scratch

/-! ## Runs -/

namespace Surroundings

variable {here : Surroundings} {files : FileTree} {folder : List String} {suffix : String}
  {first last : Nat}

/-- What comes of prepared actions, the first of which is run as the n-th. -/
def attempts (here : Surroundings) (suffix : String) (statuses : Nat → UInt8) (n : Nat)
    (prepared : List Action) : List Attempt :=
  (prepared.zipIdx n).map fun (action, k) =>
    here.scratch.attempt suffix (here.id k) (statuses k) action

theorem attempts_cons (statuses : Nat → UInt8) (n : Nat) (action : Action) (prepared : List Action) :
    here.attempts suffix statuses n (action :: prepared) =
      here.scratch.attempt suffix (here.id n) (statuses n) action ::
        here.attempts suffix statuses (n + 1) prepared :=
  rfl

def leftBy (here : Surroundings) (folder : List String) (suffix : String) (n : Nat)
    (tried : List Attempt) : List (List String × FileItem) :=
  (tried.zipIdx n).filterMap fun (attempt, k) => Scratch.left folder suffix (here.id k) attempt

theorem leftBy_cons (n : Nat) (attempt : Attempt) (tried : List Attempt) :
    here.leftBy folder suffix n (attempt :: tried) =
      (Scratch.left folder suffix (here.id n) attempt).toList ++
        here.leftBy folder suffix (n + 1) tried := by
  cases h : Scratch.left folder suffix (here.id n) attempt <;>
    simp [leftBy, List.zipIdx_cons, h]

/-- Whether the identifiers from the first up to the last are new ones. -/
structure Fresh (here : Surroundings) (files : FileTree) (folder : List String) (suffix : String)
    (first last : Nat) : Prop where
  hex : ∀ n, ∃ k, here.id n = Scratch.identifier k
  distinct : ∀ m n, first ≤ m → m < n → n < last → here.id m ≠ here.id n
  unused : ∀ n, first ≤ n → n < last → ∀ item,
    (folder ++ [Scratch.fileName suffix "json" (here.id n)], item) ∉ files.items

theorem Fresh.mono (h : here.Fresh files folder suffix first last) {last' : Nat} (hl : last' ≤ last) :
    here.Fresh files folder suffix first last' where
  hex := h.hex
  distinct m n hm hn hl' := h.distinct m n hm hn (hl'.trans_le hl)
  unused n hn hl' := h.unused n hn (hl'.trans_le hl)

theorem Fresh.of_subset (h : here.Fresh files folder suffix first last) {files' : FileTree}
    (hs : files'.items ⊆ files.items) : here.Fresh files' folder suffix first last where
  hex := h.hex
  distinct := h.distinct
  unused n hn hl item hm := h.unused n hn hl item (hs hm)

theorem Fresh.isFileName (h : here.Fresh files folder suffix first last) (plain : '/' ∉ suffix.toList)
    (n : Nat) : FileTree.IsFileName (Scratch.fileName suffix "json" (here.id n)) := by
  obtain ⟨k, hk⟩ := h.hex n
  refine Scratch.isFileName_fileName plain (by decide) ?_
  rw [hk]
  exact fun hm => absurd (Scratch.hex_identifier k '/' hm) (by decide)

theorem Fresh.next (h : here.Fresh files folder suffix first last) (attempt : Attempt) :
    here.Fresh (files.add (Scratch.left folder suffix (here.id first) attempt).toList) folder suffix
      (first + 1) last where
  hex := h.hex
  distinct m n hm := h.distinct m n (Nat.le_of_succ_le hm)
  unused n hn hl item hm := by
    rcases List.mem_append.1 hm with hm | hm
    · exact h.unused n (Nat.le_of_succ_le hn) hl item hm
    · rw [Option.mem_toList] at hm
      obtain ⟨call, -, he⟩ := Option.map_eq_some_iff.1 hm
      have name := (List.append_inj' (congrArg Prod.fst he) rfl).2
      exact h.distinct first n le_rfl hn hl (Scratch.fileName_injective (List.head_eq_of_cons_eq name))

end Surroundings

namespace Command

variable {here : Surroundings} {files : FileTree} {folder : List String} {suffix : String}
  {inv : Invocation} {statuses : Nat → UInt8}

section

-- Unfolding what an action does would evaluate the limits of the system.
attribute [local irreducible] Backend.run

theorem runFrom_cons (here : Surroundings) (backend : Backend) (inv : Invocation) (trigger : String)
    (n : Nat) (files : FileTree) (action : Action) (rest : List Action) :
    runFrom here backend inv trigger n files (action :: rest) =
      if action.matchesTrigger trigger then
        let (action, prepared) := inv.prepare files.cwd action
        match prepared with
        | .error e => ⟨files, [], .error ⟨s!"Failed to prepare action '{action.name}'", [e.message]⟩⟩
        | .ok () =>
          let run := backend.run (here.answer n) (here.id n) here.scratch files action
          match run.result with
          | .error e =>
            ⟨run.files, run.call.toList, .error ⟨s!"Action '{action.name}' failed", causesOf e⟩⟩
          | .ok () =>
            let next := runFrom here backend inv trigger (n + 1) run.files rest
            { next with calls := run.call.toList ++ next.calls }
      else runFrom here backend inv trigger n files rest :=
  rfl

end

/-- What a run has left and what came of it, told by the attempts that there were to make. -/
structure Follows (here : Surroundings) (folder : List String) (suffix : String) (n : Nat)
    (files : FileTree) (attempts : List Attempt) (runs : Runs) : Prop where
  calls : runs.calls = (Attempt.untilFailure attempts).filterMap Attempt.call?
  files : runs.files = files.add (here.leftBy folder suffix n (Attempt.untilFailure attempts))
  result : runs.result = .ok () ↔ ∀ attempt ∈ attempts, attempt.succeeds = true

/-- An attempt comes before what follows it, which is run only if it succeeds. -/
theorem follows_cons {n : Nat} {attempt : Attempt} {attempts : List Attempt} {run : RunOutcome}
    {next : Runs} {failure : BackendError → Failure}
    (hf : run.files = files.add (Scratch.left folder suffix (here.id n) attempt).toList)
    (hc : run.call = attempt.call?) (hr : run.result = .ok () ↔ attempt.succeeds = true)
    (hn : Follows here folder suffix (n + 1) run.files attempts next) :
    Follows here folder suffix n files (attempt :: attempts)
      (match run.result with
      | .error e => ⟨run.files, run.call.toList, .error (failure e)⟩
      | .ok () => { next with calls := run.call.toList ++ next.calls }) := by
  obtain ⟨calls, files', result⟩ := hn
  split
  · rename_i e he
    have fails : attempt.succeeds = false := by
      rw [← Bool.not_eq_true, ← hr, he]
      nofun
    refine ⟨?_, ?_, nofun, fun h => ?_⟩
    · rw [Attempt.untilFailure, fails, hc]
      cases hc' : attempt.call? <;> simp [hc']
    · rw [Attempt.untilFailure, fails, if_neg Bool.false_ne_true, Surroundings.leftBy_cons, hf]
      simp [Surroundings.leftBy]
    · rw [h attempt List.mem_cons_self] at fails
      cases fails
  · rename_i ho
    have succeeds := hr.1 ho
    refine ⟨?_, ?_, ?_⟩
    · rw [Attempt.untilFailure, succeeds, if_pos rfl, hc, calls]
      cases hc' : attempt.call? <;> simp [hc']
    · rw [Attempt.untilFailure, succeeds, if_pos rfl, Surroundings.leftBy_cons, ← FileTree.add_add, ← hf]
      exact files'
    · rw [List.forall_mem_cons, and_iff_right succeeds]
      exact result

/-- A run makes the calls of the attempts up to the first that fails, and adds the files of these. -/
theorem runFrom_follows (answers : ∀ n, here.answer n = .exited (statuses n))
    (base : inv.baseDir ≠ "") (plain : '/' ∉ suffix.toList) (backend : Backend) (trigger : String)
    {actions : List Action} (hs : ∀ action ∈ actions, action.suffix = suffix) {n : Nat}
    (hl : files.locateFolder here.scratch.root = .ok folder)
    (fresh : here.Fresh files folder suffix n (n + actions.length)) :
    Follows here folder suffix n files
      (here.attempts suffix statuses n
        ((actions.filter (·.Selected trigger)).map fun action => (inv.prepare files.cwd action).1))
      (runFrom here backend inv trigger n files actions) := by
  induction actions generalizing n files with
  | nil => exact ⟨rfl, (FileTree.add_nil files).symm, fun _ => List.forall_mem_nil _, fun _ => rfl⟩
  | cons action rest ih =>
    rw [List.forall_mem_cons] at hs
    rw [runFrom_cons]
    by_cases selected : action.Selected trigger
    · rw [if_pos (Action.matchesTrigger_iff.2 selected), List.filter_cons_of_pos (by simpa using selected),
        List.map_cons, Surroundings.attempts_cons]
      have prepares := Invocation.prepare_result base files.cwd action
      have own : (inv.prepare files.cwd action).1.suffix = suffix := hs.1
      obtain ⟨hf, hc, hr⟩ := Scratch.run_attempt backend (statuses n) hl (fresh.isFileName plain n)
        (fresh.unused n le_rfl (Nat.lt_add_of_pos_right (Nat.succ_pos _))) own
      simp only [prepares, answers n]
      refine follows_cons hf hc hr ?_
      rw [hf]
      refine ih hs.2 (FileTree.locateFolder_add hl _) ?_
      rw [Nat.add_right_comm, Nat.add_assoc]
      exact fresh.next _
    · rw [if_neg (mt Action.matchesTrigger_iff.1 selected),
        List.filter_cons_of_neg (by simpa using selected)]
      exact ih hs.2 hl (fresh.mono (Nat.add_le_add_left (Nat.le_succ _) n))

/-! ## Outcomes -/

variable {options : ExecOptions} {debug : UInt8} {d : Document} {cleaned : FileTree}

theorem during_eq_ok {ε α : Type} {context : String} {causes : ε → List String} {x : Except ε α} {a : α} :
    during context causes x = .ok a ↔ x = .ok a := by
  cases x with
  | error e => exact ⟨nofun, nofun⟩
  | ok b =>
    constructor <;>
    · rintro ⟨⟩
      rfl

/-- What an execution has come by when it has only to compile its actions. -/
structure Reaches (here : Surroundings) (options : ExecOptions) (debug : UInt8) (files : FileTree)
    (d : Document) (folder : List String) (cleaned : FileTree) : Prop where
  valid : (invocation options debug).validate options.backend = .ok ()
  read : readDocument files options.config = .ok d
  located : files.locateFolder here.scratch.root = .ok folder
  cleaned : ∃ count, here.scratch.cleanup files d.suffix = .ok (cleaned, count)

theorem Reaches.plan_eq (h : Reaches here options debug files d folder cleaned) :
    plan here options (invocation options debug) files =
      (cleaned, compileDocument here options.backend d) := by
  obtain ⟨count, hc⟩ := h.cleaned
  have document : (do
      during "Invalid parameters" causesOf ((invocation options debug).validate options.backend)
      readDocument files options.config) = .ok d := by
    rw [h.valid]
    exact h.read
  unfold plan
  simp only [document, during_eq_ok.2 hc]

theorem exists_reaches {actions : List Action}
    (h : plan here options (invocation options debug) files = (cleaned, .ok actions)) :
    ∃ d folder, Reaches here options debug files d folder cleaned ∧
      compileDocument here options.backend d = .ok actions := by
  unfold plan at h
  simp only at h
  split at h
  · cases h
  · rename_i d hd
    obtain ⟨_, hv, hr⟩ := bind_eq_ok.1 hd
    split at h
    · cases h
    · rename_i left count hc
      rw [Prod.mk.injEq] at h
      obtain ⟨rfl, hcompile⟩ := h
      have cleaned := during_eq_ok.1 hc
      obtain ⟨folder, hl, -⟩ := Scratch.cleanup_eq_ok cleaned
      exact ⟨d, folder, ⟨during_eq_ok.1 hv, hr, hl, count, cleaned⟩, hcompile⟩

theorem suffix_of_compileDocument {backend : Backend} {actions : List Action}
    (h : compileDocument here backend d = .ok actions) :
    ∀ action ∈ actions, action.suffix = d.suffix := by
  obtain ⟨s, hs, hc⟩ := bind_eq_ok.1 h
  obtain ⟨-, apps, rfl, -⟩ := Document.normalize_result_eq_ok (during_eq_ok.1 hs)
  obtain ⟨blocks, rfl, hb⟩ := Compiler.compile_eq_ok_iff.1 (during_eq_ok.1 hc)
  rw [List.forall_mem_flatten]
  refine forall_mem_of_forall₂ hb fun p _ block hp action hm => ?_
  exact ((Compiler.compilePlaybook_eq_ok hp).playbook action hm).suffix

/-- What a caller sees of a run. -/
theorem execute_exec (here : Surroundings) (files : FileTree) (options : ExecOptions) (debug : UInt8) :
    let runs := runScenario here options debug files
    let outcome := execute here files (.exec options debug)
    outcome.calls = runs.calls ∧ outcome.files = runs.files ∧
      ((runs.result = .ok () ∧ outcome.code = 0) ∨ (runs.result ≠ .ok () ∧ outcome.code = 1)) := by
  simp only [execute]
  split
  · rename_i h
    exact ⟨rfl, rfl, .inl ⟨h, rfl⟩⟩
  · rename_i h
    exact ⟨rfl, rfl, .inr ⟨by rw [h]; nofun, rfl⟩⟩

theorem Reaches.runScenario_eq_error (h : Reaches here options debug files d folder cleaned) {e : Failure}
    (hc : compileDocument here options.backend d = .error e) :
    runScenario here options debug files = ⟨cleaned, [], .error e⟩ := by
  unfold runScenario
  simp only [h.plan_eq, hc]

theorem Reaches.runScenario_eq (h : Reaches here options debug files d folder cleaned)
    {actions : List Action} (hc : compileDocument here options.backend d = .ok actions) :
    runScenario here options debug files =
      runFrom here options.backend (invocation options debug) options.trigger 0 cleaned actions := by
  unfold runScenario
  simp only [h.plan_eq, hc]

theorem runScenario_stopped (h : ∀ d folder cleaned actions,
      Reaches here options debug files d folder cleaned →
        compileDocument here options.backend d ≠ .ok actions) :
    (runScenario here options debug files).calls = [] ∧
      (runScenario here options debug files).result ≠ .ok () := by
  unfold runScenario
  simp only
  split
  · exact ⟨rfl, nofun⟩
  · rename_i hp
    obtain ⟨d, folder, hr, hc⟩ := exists_reaches hp
    exact absurd hc (h d folder _ _ hr)

theorem filter_leftBy (here : Surroundings) (folder : List String) (suffix : String) (n : Nat)
    (tried : List Attempt) :
    (here.leftBy folder suffix n tried).filter (Scratch.belongsTo folder suffix) =
      here.leftBy folder suffix n tried := by
  rw [List.filter_eq_self]
  intro entry hm
  obtain ⟨⟨attempt, k⟩, -, he⟩ := List.mem_filterMap.1 hm
  obtain ⟨call, -, rfl⟩ := Option.map_eq_some_iff.1 he
  exact Scratch.belongsTo_entry _ _ _ _ _

/-- A run follows its attempts in the folder that the cleanup has left. -/
theorem Reaches.follows (h : Reaches here options debug files d folder cleaned)
    (clean : Scratch.Cleaned files cleaned here.scratch.root folder d.suffix)
    {actions : List Action} (hc : compileDocument here options.backend d = .ok actions)
    (plain : '/' ∉ d.suffix.toList) (answers : ∀ n, here.answer n = .exited (statuses n))
    (fresh : here.Fresh files folder d.suffix 0 actions.length) :
    Follows here folder d.suffix 0 cleaned
      (here.attempts d.suffix statuses 0 ((actions.filter (·.Selected options.trigger)).map
        fun action => ((invocation options debug).prepare files.cwd action).1))
      (runScenario here options debug files) := by
  have fresh : here.Fresh cleaned folder d.suffix 0 (0 + actions.length) := by
    rw [Nat.zero_add]
    exact fresh.of_subset (by rw [clean.kept]; exact List.filter_subset_self _)
  rw [h.runScenario_eq hc, ← clean.cwd]
  exact runFrom_follows answers (Path.folder_ne_empty options.config) plain options.backend
    options.trigger (suffix_of_compileDocument hc) clean.located fresh

def jobs (user : String) (names : List String) : Document where
  id := "0"
  env := "test"
  dest := "/data"
  oses := [{ user }]
  playbooks := names.map fun name => { name, state := "s", inventory := "i", containers := [{}] }

def jobAction (user name : String) : Action where
  name
  play := "rigger.yml"
  inventory := "i"
  user
  containers := [{ params := "--name " ++ name ++ " ", name, state := "s" }]
  suffix := "0-test"

/-- A document, and a scratch folder with a file that an earlier run left. -/
def filesOf (d : Document) : FileTree where
  items := [(["tmp"], .folder), (["tmp", "rigger-0-test-old"], .file .empty),
    (["jobs.json"], .file d.encode.compact.toUTF8)]

def offline (statuses : Nat → UInt8) : Surroundings where
  env := ⟨[]⟩
  scratch := ⟨"/tmp"⟩
  download := .offline
  answer n := .exited (statuses n)
  id := Scratch.identifier

def jobOptions (trigger : String) : ExecOptions where
  config := "/jobs.json"
  backend := .ansible
  gitKey := ""
  privateKey := ""
  trigger
  inventory := "hosts"
  playbookPath := "/opt/plays"

theorem locate_filesOf (d : Document) : (filesOf d).locate "/jobs.json" = .ok ["jobs.json"] := by
  have parts : [[], "jobs.json".toList] = Path.components (Path.join "/" "/jobs.json").toList := by
    decide +kernel
  have hc : (filesOf d).components "/jobs.json" = .ok [[], "jobs.json".toList] :=
    FileTree.components_eq_ok.2 ⟨by decide, by decide, by decide +kernel, parts⟩
  rw [FileTree.locate, hc]
  rfl

theorem locateFolder_filesOf (d : Document) : (filesOf d).locateFolder "/tmp" = .ok ["tmp"] := by
  have parts : [[], "tmp".toList] = Path.components (Path.join "/" "/tmp").toList := by
    decide +kernel
  exact FileTree.locateFolder_eq_ok.2 ⟨_, FileTree.components_eq_ok.2
    ⟨by decide, by decide, by decide +kernel, parts⟩, rfl, rfl⟩

theorem exists_reaches_filesOf (hd : Document.read d.encode.compact = .ok d) (statuses : Nat → UInt8)
    (trigger : String) :
    ∃ cleaned, Reaches (offline statuses) (jobOptions trigger) 0 (filesOf d) d ["tmp"] cleaned := by
  have text : (filesOf d).readText (jobOptions trigger).config = .ok d.encode.compact :=
    FileTree.readText_eq_ok (locate_filesOf d) rfl
  have located : (filesOf d).locateFolder (offline statuses).scratch.root = .ok ["tmp"] :=
    locateFolder_filesOf d
  obtain ⟨cleaned, count, hc⟩ := Scratch.exists_cleanup located d.suffix
  have read : readDocument (filesOf d) (jobOptions trigger).config = .ok d :=
    bind_eq_ok.2 ⟨_, during_eq_ok.2 text, during_eq_ok.2 hd⟩
  exact ⟨cleaned, rfl, read, located, count, hc⟩

theorem reaches_of_mem_filesOf (statuses : Nat → UInt8) :
    ∀ entry ∈ (filesOf d).items, (offline statuses).scratch.reaches entry.1 = true := by
  have places : ∀ place ∈ [["tmp"], ["tmp", "rigger-0-test-old"], ["jobs.json"]],
      Scratch.reaches ⟨"/tmp"⟩ place = true := by
    decide +kernel
  exact fun entry hm => places entry.1 (List.mem_map_of_mem hm)

theorem fresh_filesOf (d : Document) (statuses : Nat → UInt8) :
    (offline statuses).Fresh (filesOf d) ["tmp"] "0-test" 0 4 where
  hex n := ⟨n, rfl⟩
  distinct m n _ hm hn := by
    have other : ∀ n < 4, ∀ m < n, Scratch.identifier m ≠ Scratch.identifier n := by
      decide +kernel
    exact other n hn m hm
  unused n _ hn item hm := by
    have other : ∀ n < 4, Scratch.fileName "0-test" "json" (Scratch.identifier n) ≠
        "rigger-0-test-old" := by
      decide +kernel
    simp only [filesOf, List.singleton_append, List.mem_cons, Prod.mk.injEq, List.cons.injEq,
      List.not_mem_nil, or_false, reduceCtorEq, and_false, false_and, and_true, false_or,
      true_and] at hm
    exact other n hn hm.1

/-- A document's text is read if its tokens put together are what was written. -/
theorem read_compact
    (hw : Json.build [] .value (Json.tokensFrom .between d.encode.compactChars) = (d.encode.written, []))
    (hd : Document.decode d.encode.written = .ok d) : Document.read d.encode.compact = .ok d := by
  have read : Json.Written.read d.encode.compact = (d.encode.written, []) := by
    rw [Json.Written.read, Json.compact, String.toList_ofList]
    exact hw
  simp only [Document.read, read, hd, List.isEmpty_nil, if_true]

end Command

end Rollout
