import TcpShift.Lib.Reorder
import TcpShift.ServiceConfig
import TcpShift.ServiceConfigStrings

set_option autoImplicit false

/- The outcome of a load as a function of the statements of the file: assignments of
different keys commute, and one key is assigned once. -/
namespace TcpShift.ServiceConfig

open CString

def statements (bytes : List UInt8) : List Line := (getlines bytes).map readLine

/-- The line without the number that only the failure carries. -/
def accept (loader : Loader) (line : Line) : Option Loader := (applyLine 0 loader line).toOption

theorem applyLine_toOption (number : Nat) (loader : Loader) (line : Line) :
    (applyLine number loader line).toOption = accept loader line := by
  unfold accept
  cases line with
  | assignment name value =>
      simp only [applyLine]
      cases lookup loader.state.inForward name with
      | none => rfl
      | some key =>
          simp only
          cases assign loader key value <;> rfl
  | forward => rfl
  | nul => rfl
  | blank => rfl
  | table => rfl
  | noSeparator => rfl
  | invalid => rfl

theorem flatten_getlines (bytes : List UInt8) : (getlines bytes).flatten = bytes := by
  induction bytes with
  | nil => rfl
  | cons c rest ih =>
      rw [getlines]
      split
      · rw [List.flatten_cons, ih]
        rfl
      · cases lines : getlines rest with
        | nil =>
            rw [lines] at ih
            rw [← ih]
            rfl
        | cons line others =>
            rw [lines, List.flatten_cons] at ih
            simp only
            rw [List.flatten_cons, List.cons_append, ih]

theorem readLines_toOption {lines : List (List UInt8)} (number : Nat) {total : Nat}
    (loader : Loader) (small : total + lines.flatten.length ≤ maxBytes) :
    (readLines number total loader lines).toOption =
      Run.run accept loader (lines.map readLine) := by
  induction lines generalizing number total loader with
  | nil => rfl
  | cons line rest ih =>
      rw [List.flatten_cons, List.length_append] at small
      rw [readLines, if_neg (by omega), List.map_cons, Run.run,
        ← applyLine_toOption (number + 1)]
      cases applyLine (number + 1) loader (readLine line) with
      | error failure => rfl
      | ok next => exact ih (number + 1) next (by omega)

/-- Reading succeeds only when every line is accepted in turn. -/
theorem run_of_readLines {lines : List (List UInt8)} {number total : Nat}
    {loader final : Loader} (read : readLines number total loader lines = .ok final) :
    Run.run accept loader (lines.map readLine) = some final := by
  induction lines generalizing number total loader with
  | nil =>
      cases read
      rfl
  | cons line rest ih =>
      rw [readLines] at read
      split at read
      · cases read
      · rw [List.map_cons, Run.run, ← applyLine_toOption (number + 1)]
        cases applied : applyLine (number + 1) loader (readLine line) with
        | error failure => simp [applied] at read
        | ok next =>
            rw [applied] at read
            exact ih read

section Keys

/-- What the assignment of a key writes. -/
def Key.store (parsed : List UInt8) (number : Nat) (loader : Loader) : Key → Loader
  | .version =>
      { config := { loader.config with version := number }
        state := { loader.state with haveVersion := true } }
  | .cc =>
      { config := { loader.config with cc := parsed }
        state := { loader.state with haveCc := true } }
  | .firewallBackend =>
      { config := { loader.config with firewallBackend := parsed }
        state := { loader.state with haveFirewallBackend := true } }
  | .tunName =>
      { config := { loader.config with tunName := parsed }
        state := { loader.state with haveTunName := true } }
  | .tunHost =>
      { config := { loader.config with tunHostCidr := parsed }
        state := { loader.state with haveTunHost := true } }
  | .tunGuest =>
      { config := { loader.config with tunGuestAddress := parsed }
        state := { loader.state with haveTunGuest := true } }
  | .listen =>
      { loader with state := { loader.state with listen := parsed, haveListen := true } }
  | .backend =>
      { loader with state := { loader.state with backend := parsed, haveBackend := true } }

theorem Key.read_eq_store {key : Key} {value : List UInt8} {store : Loader → Loader}
    (read : key.read value = some store) :
    ∃ parsed number, store = fun loader => key.store parsed number loader := by
  cases key with
  | version =>
      obtain ⟨number, _, rfl⟩ := Option.map_eq_some_iff.mp read
      exact ⟨[], number, rfl⟩
  | firewallBackend =>
      obtain ⟨parsed, _, checked⟩ := Option.bind_eq_some_iff.mp read
      split at checked
      · cases checked
        exact ⟨parsed, 0, rfl⟩
      · cases checked
  | cc | tunName | tunHost | tunGuest | listen | backend =>
      obtain ⟨parsed, _, rfl⟩ := Option.map_eq_some_iff.mp read
      exact ⟨parsed, 0, rfl⟩

variable {key other : Key} {loader next : Loader} {value : List UInt8}

theorem Key.taken_store (parsed : List UInt8) (number : Nat) :
    key.taken (key.store parsed number loader) = true := by
  cases key <;> rfl

theorem Key.taken_store_other (parsed : List UInt8) (number : Nat) (different : key ≠ other) :
    other.taken (key.store parsed number loader) = other.taken loader := by
  cases key <;> cases other <;> first | rfl | exact absurd rfl different

theorem Key.store_comm (parsed text : List UInt8) (number count : Nat) (different : key ≠ other) :
    key.store parsed number (other.store text count loader) =
      other.store text count (key.store parsed number loader) := by
  cases key <;> cases other <;> first | rfl | exact absurd rfl different

theorem Key.store_tables (parsed : List UInt8) (number : Nat) :
    (key.store parsed number loader).state.inForward = loader.state.inForward ∧
      (key.store parsed number loader).state.haveForward = loader.state.haveForward := by
  cases key <;> exact ⟨rfl, rfl⟩

/-- What an assignment does, and that it was the first of its key. -/
theorem assign_eq_some (assigned : assign loader key value = some next) :
    key.taken loader = false ∧ ∃ parsed number, next = key.store parsed number loader ∧
      ∀ start, key.taken start = false →
        assign start key value = some (key.store parsed number start) := by
  unfold assign at assigned
  split at assigned
  · cases assigned
  · rename_i free
    obtain ⟨store, read, rfl⟩ := Option.map_eq_some_iff.mp assigned
    obtain ⟨parsed, number, rfl⟩ := Key.read_eq_store read
    refine ⟨by simpa using free, parsed, number, rfl, ?_⟩
    intro start untaken
    unfold assign
    rw [untaken, if_neg Bool.noConfusion, read]
    rfl

theorem assign_taken (taken : key.taken loader = true) : assign loader key value = none :=
  if_pos taken

/-- Only the key's own mark and its value decide whether an assignment is accepted. -/
theorem assign_none_congr {start : Loader} (same : key.taken start = key.taken loader)
    (refused : assign loader key value = none) : assign start key value = none := by
  unfold assign at refused ⊢
  rw [same]
  split at refused
  · exact if_pos ‹_›
  · rename_i free
    rw [if_neg free]
    rw [Option.map_eq_none_iff] at refused ⊢
    exact refused

theorem assign_comm (loader : Loader) (key other : Key) (value text : List UInt8) :
    (assign loader key value).bind (fun next => assign next other text) =
      (assign loader other text).bind (fun next => assign next key value) := by
  by_cases same : key = other
  · subst same
    have twice : ∀ first second, (assign loader key first).bind
        (fun next => assign next key second) = none := by
      intro first second
      cases assigned : assign loader key first with
      | none => rfl
      | some next =>
          obtain ⟨_, parsed, number, rfl, _⟩ := assign_eq_some assigned
          exact assign_taken (Key.taken_store parsed number)
    rw [twice, twice]
  · cases first : assign loader key value with
    | none =>
        cases second : assign loader other text with
        | none => rfl
        | some next =>
            obtain ⟨_, parsed, number, rfl, _⟩ := assign_eq_some second
            exact (assign_none_congr (Key.taken_store_other parsed number (Ne.symm same))
              first).symm
    | some next =>
        obtain ⟨free, parsed, number, rfl, again⟩ := assign_eq_some first
        cases second : assign loader other text with
        | none =>
            exact assign_none_congr (Key.taken_store_other parsed number same) second
        | some _ =>
            obtain ⟨untaken, string, count, rfl, later⟩ := assign_eq_some second
            rw [Option.bind_some, Option.bind_some,
              later _ ((Key.taken_store_other parsed number same).trans untaken),
              again _ ((Key.taken_store_other string count (Ne.symm same)).trans free),
              Key.store_comm parsed string number count same]

end Keys

theorem accept_assignment (loader : Loader) (name value : List UInt8) :
    accept loader (.assignment name value) =
      (lookup loader.state.inForward name).bind (fun key => assign loader key value) := by
  simp only [accept, applyLine]
  cases lookup loader.state.inForward name with
  | none => rfl
  | some key =>
      simp only [Option.bind_some]
      cases assign loader key value <;> rfl

theorem accept_forward (loader : Loader) :
    accept loader .forward =
      if loader.state.haveForward then none
      else some { loader with
        state := { loader.state with haveForward := true, inForward := true } } := by
  simp only [accept, applyLine]
  split <;> rfl

/-- The loader is in the part of the file before the table header, or behind it. -/
structure InPart (forward : Bool) (loader : Loader) : Prop where
  table : loader.state.inForward = forward
  header : forward = true → loader.state.haveForward = true

/-- Within one part a line is refused, skipped, or assigns a key. -/
theorem accept_cases {forward : Bool} {line : Line} (free : line = .forward → forward = true) :
    (∀ loader, InPart forward loader → accept loader line = none) ∨
      (∀ loader, accept loader line = some loader) ∨
      ∃ key value, ∀ loader, InPart forward loader →
        accept loader line = assign loader key value := by
  cases line with
  | blank => exact .inr (.inl (fun _ => rfl))
  | nul => exact .inl (fun _ _ => rfl)
  | table => exact .inl (fun _ _ => rfl)
  | noSeparator => exact .inl (fun _ _ => rfl)
  | invalid => exact .inl (fun _ _ => rfl)
  | forward =>
      refine .inl ?_
      intro loader part
      rw [accept_forward, if_pos (part.header (free rfl))]
  | assignment name value =>
      cases found : lookup forward name with
      | none =>
          refine .inl ?_
          intro loader part
          rw [accept_assignment, part.table, found]
          rfl
      | some key =>
          refine .inr (.inr ⟨key, value, ?_⟩)
          intro loader part
          rw [accept_assignment, part.table, found]
          rfl

theorem accept_part {forward : Bool} {loader next : Loader} {line : Line}
    (part : InPart forward loader) (free : line = .forward → forward = true)
    (accepted : accept loader line = some next) : InPart forward next := by
  rcases accept_cases free with refused | skipped | ⟨key, value, assigns⟩
  · rw [refused loader part] at accepted
    cases accepted
  · rw [skipped loader] at accepted
    cases accepted
    exact part
  · rw [assigns loader part] at accepted
    obtain ⟨_, parsed, number, rfl, _⟩ := assign_eq_some accepted
    obtain ⟨table, header⟩ := @Key.store_tables key loader parsed number
    exact ⟨table.trans part.table, fun inForward => header.trans (part.header inForward)⟩

theorem accept_comm {forward : Bool} {loader : Loader} {first second : Line}
    (part : InPart forward loader) (freeFirst : first = .forward → forward = true)
    (freeSecond : second = .forward → forward = true) :
    (accept loader first).bind (fun next => accept next second) =
      (accept loader second).bind (fun next => accept next first) := by
  have later : ∀ {line : Line} {next : Loader}, (line = .forward → forward = true) →
      accept loader line = some next → InPart forward next :=
    fun free accepted => accept_part part free accepted
  rcases accept_cases freeFirst with refused | skipped | ⟨key, value, assigns⟩
  · rw [refused loader part]
    cases accepted : accept loader second with
    | none => rfl
    | some next => exact (refused next (later freeSecond accepted)).symm
  · rw [skipped loader, Option.bind_some]
    cases accept loader second with
    | none => rfl
    | some next => exact (skipped next).symm
  · rcases accept_cases freeSecond with refused | skipped | ⟨other, text, stores⟩
    · rw [refused loader part]
      cases accepted : accept loader first with
      | none => rfl
      | some next => exact refused next (later freeFirst accepted)
    · rw [skipped loader, Option.bind_some]
      cases accept loader first with
      | none => rfl
      | some next => exact skipped next
    · have left : (accept loader first).bind (fun next => accept next second) =
          (assign loader key value).bind (fun next => assign next other text) := by
        rw [← assigns loader part]
        cases accepted : accept loader first with
        | none => rfl
        | some next => exact stores next (later freeFirst accepted)
      have right : (accept loader second).bind (fun next => accept next first) =
          (assign loader other text).bind (fun next => assign next key value) := by
        rw [← stores loader part]
        cases accepted : accept loader second with
        | none => rfl
        | some next => exact assigns next (later freeSecond accepted)
      rw [left, right]
      exact assign_comm loader key other value text

theorem run_accept_perm {forward : Bool} {lines others : List Line} {loader : Loader}
    (part : InPart forward loader) (perm : lines.Perm others)
    (free : ∀ line ∈ lines, line = .forward → forward = true) :
    Run.run accept loader lines = Run.run accept loader others := by
  have keeps : ∀ loader line next, InPart forward loader → (line = .forward → forward = true) →
      accept loader line = some next → InPart forward next := by
    intro loader line next part free accepted
    exact accept_part part free accepted
  have commute : ∀ loader first second, InPart forward loader →
      (first = .forward → forward = true) → (second = .forward → forward = true) →
      (accept loader first).bind (fun next => accept next second) =
        (accept loader second).bind (fun next => accept next first) := by
    intro loader first second part freeFirst freeSecond
    exact accept_comm part freeFirst freeSecond
  exact Run.run_perm keeps commute perm part free

/-- The lines that say something. -/
def spoken (lines : List Line) : List Line := lines.filter (fun line => line ≠ .blank)

theorem run_spoken (loader : Loader) (lines : List Line) :
    Run.run accept loader (spoken lines) = Run.run accept loader lines := by
  apply Run.run_filter
  intro loader line blank
  have same : line = .blank := by simpa using blank
  rw [same]
  rfl

/-- But for blank and comment lines, the statements before the table header are the same in
some order, and so are those behind it. -/
inductive Rearranged (lines others : List Line) : Prop where
  | headless (none : .forward ∉ spoken lines) (perm : (spoken lines).Perm (spoken others))
  | table {top body top' body' : List Line} (none : .forward ∉ top)
      (first : spoken lines = top ++ .forward :: body)
      (second : spoken others = top' ++ .forward :: body')
      (tops : top.Perm top') (bodies : body.Perm body')

theorem run_rearranged {lines others : List Line} (rearranged : Rearranged lines others) :
    Run.run accept {} lines = Run.run accept {} others := by
  have start : InPart false ({} : Loader) := ⟨rfl, fun impossible => nomatch impossible⟩
  rw [← run_spoken, ← run_spoken _ others]
  cases rearranged with
  | headless none perm =>
      apply run_accept_perm start perm
      intro line member header
      rw [header] at member
      exact absurd member none
  | table none first second tops bodies =>
      rename_i top body top' body'
      have free : ∀ line ∈ top, line = .forward → false = true := by
        intro line member header
        rw [header] at member
        exact absurd member none
      have topSame := run_accept_perm start tops free
      rw [first, second]
      cases ran : Run.run accept {} top with
      | none =>
          rw [ran] at topSame
          rw [Run.run_append_none ran, Run.run_append_none topSame.symm]
      | some loader =>
          rw [ran] at topSame
          rw [Run.run_append ran, Run.run_append topSame.symm]
          rw [Run.run, Run.run]
          cases accepted : accept loader .forward with
          | none => rfl
          | some next =>
              have behind : InPart true next := by
                rw [accept_forward] at accepted
                split at accepted
                · cases accepted
                · cases accepted
                  exact ⟨rfl, fun _ => rfl⟩
              rw [Option.bind_some, Option.bind_some]
              exact run_accept_perm behind bodies (fun _ _ _ => rfl)

section Strict

theorem Key.name_injective {key other : Key} (same : key.name = other.name) : key = other := by
  cases key <;> cases other <;> first | rfl | exact absurd same (by decide)

theorem name_of_lookup {forward : Bool} {name : List UInt8} {key : Key}
    (found : lookup forward name = some key) : name = key.name := by
  have named := List.find?_some found
  simpa using named

theorem accept_taken {loader next : Loader} {line : Line} {key : Key}
    (taken : key.taken loader = true) (accepted : accept loader line = some next) :
    key.taken next = true := by
  cases line with
  | blank =>
      cases accepted
      exact taken
  | forward =>
      rw [accept_forward] at accepted
      split at accepted
      · cases accepted
      · cases accepted
        cases key <;> exact taken
  | assignment name value =>
      rw [accept_assignment] at accepted
      obtain ⟨other, _, assigned⟩ := Option.bind_eq_some_iff.mp accepted
      obtain ⟨_, parsed, number, rfl, _⟩ := assign_eq_some assigned
      by_cases same : other = key
      · rw [same]
        exact Key.taken_store parsed number
      · rw [Key.taken_store_other parsed number same]
        exact taken
  | nul => cases accepted
  | table => cases accepted
  | noSeparator => cases accepted
  | invalid => cases accepted

theorem accept_tables {loader next : Loader} {line : Line}
    (accepted : accept loader line = some next) :
    next.state.inForward = (loader.state.inForward || line = .forward) ∧
      next.state.haveForward = (loader.state.haveForward || line = .forward) := by
  cases line with
  | blank =>
      cases accepted
      simp
  | forward =>
      rw [accept_forward] at accepted
      split at accepted
      · cases accepted
      · cases accepted
        simp
  | assignment name value =>
      rw [accept_assignment] at accepted
      obtain ⟨key, _, assigned⟩ := Option.bind_eq_some_iff.mp accepted
      obtain ⟨_, parsed, number, rfl, _⟩ := assign_eq_some assigned
      obtain ⟨inForward, haveForward⟩ := @Key.store_tables key loader parsed number
      simp [inForward, haveForward]
  | nul => cases accepted
  | table => cases accepted
  | noSeparator => cases accepted
  | invalid => cases accepted

/-- The table header is read once, and stays. -/
theorem run_tables {loader final : Loader} {lines : List Line}
    (ran : Run.run accept loader lines = some final) :
    final.state.inForward = (loader.state.inForward || decide (.forward ∈ lines)) ∧
      final.state.haveForward = (loader.state.haveForward || decide (.forward ∈ lines)) := by
  induction lines generalizing loader with
  | nil =>
      cases ran
      simp
  | cons line rest ih =>
      obtain ⟨next, accepted, tail⟩ := Run.run_cons_eq_some.mp ran
      obtain ⟨inForward, haveForward⟩ := accept_tables accepted
      obtain ⟨inForward', haveForward'⟩ := ih tail
      rw [inForward', haveForward', inForward, haveForward, Bool.or_assoc, Bool.or_assoc]
      have member : (decide (line = .forward) || decide (Line.forward ∈ rest)) =
          decide (Line.forward ∈ line :: rest) := by
        rw [← Bool.decide_or]
        apply decide_eq_decide.mpr
        rw [List.mem_cons, eq_comm]
      rw [member]
      exact ⟨rfl, rfl⟩

/-- A key is assigned once. -/
theorem run_repeated (before between after : List Line) (name value text : List UInt8) :
    Run.run accept {} (before ++ .assignment name value ::
      (between ++ .assignment name text :: after)) = none := by
  cases ran : Run.run accept {} (before ++ .assignment name value ::
    (between ++ .assignment name text :: after)) with
  | none => rfl
  | some final =>
      obtain ⟨loader, _, rest⟩ := Run.run_append_eq_some ran
      obtain ⟨next, first, rest⟩ := Run.run_cons_eq_some.mp rest
      obtain ⟨loader', middle, rest⟩ := Run.run_append_eq_some rest
      obtain ⟨next', second, _⟩ := Run.run_cons_eq_some.mp rest
      rw [accept_assignment] at first second
      obtain ⟨key, found, assigned⟩ := Option.bind_eq_some_iff.mp first
      obtain ⟨key', found', assigned'⟩ := Option.bind_eq_some_iff.mp second
      obtain ⟨_, parsed, number, rfl, _⟩ := assign_eq_some assigned
      have same : key = key' :=
        Key.name_injective ((name_of_lookup found).symm.trans (name_of_lookup found'))
      have keeps : ∀ loader line next, key.taken loader = true →
          accept loader line = some next → key.taken next = true := by
        intro loader line next taken accepted
        exact accept_taken taken accepted
      have taken := Run.run_invariant keeps (Key.taken_store parsed number) middle
      rw [same] at taken
      rw [assign_taken taken] at assigned'
      cases assigned'

/-- Only the keys of the table a line is in are known. -/
theorem run_unknown {before : List Line} (after : List Line) {name : List UInt8}
    (value : List UInt8)
    (unknown : ∀ key ∈ if .forward ∈ before then forwardKeys else topKeys, name ≠ key.name) :
    Run.run accept {} (before ++ .assignment name value :: after) = none := by
  cases ran : Run.run accept {} (before ++ .assignment name value :: after) with
  | none => rfl
  | some final =>
      obtain ⟨loader, early, rest⟩ := Run.run_append_eq_some ran
      obtain ⟨next, accepted, _⟩ := Run.run_cons_eq_some.mp rest
      have table : loader.state.inForward = decide (.forward ∈ before) :=
        (run_tables early).1.trans (Bool.false_or _)
      rw [accept_assignment] at accepted
      obtain ⟨key, found, _⟩ := Option.bind_eq_some_iff.mp accepted
      have member := List.mem_of_find?_eq_some found
      rw [table] at member
      simp only [decide_eq_true_eq] at member
      exact absurd (name_of_lookup found) (unknown key member)

/-- There is one table. -/
theorem run_second_forward (before between after : List Line) :
    Run.run accept {} (before ++ .forward :: (between ++ .forward :: after)) = none := by
  cases ran : Run.run accept {} (before ++ .forward :: (between ++ .forward :: after)) with
  | none => rfl
  | some final =>
      rw [← List.cons_append, ← List.append_assoc] at ran
      obtain ⟨loader, early, rest⟩ := Run.run_append_eq_some ran
      obtain ⟨next, accepted, _⟩ := Run.run_cons_eq_some.mp rest
      have header := (run_tables early).2
      rw [decide_eq_true (by simp), Bool.or_true] at header
      rw [accept_forward, if_pos header] at accepted
      cases accepted

end Strict

/-- Success and the configuration behind the pointer. -/
def outcome (answer : Except Failure Unit × Config) : Bool × Config := (answer.1.isOk, answer.2)

theorem outcome_load (inet : Inet) (path : Option (List UInt8)) (source : Source)
    (config : Config) :
    outcome (load inet path source config) =
      match path with
      | none => (false, config)
      | some [] => (false, config)
      | some (c :: rest) =>
          match (loadSource inet (c :: rest) source).toOption with
          | none => (false, {})
          | some loaded => (true, loaded) := by
  cases path with
  | none => rfl
  | some path =>
      cases path with
      | nil => rfl
      | cons c rest =>
          simp only [load]
          cases loadSource inet (c :: rest) source <;> rfl

/-- Every failure behind the check of the arguments clears the configuration. -/
theorem load_atomic {inet : Inet} {path : List UInt8} (source : Source) (config : Config)
    (some' : path ≠ []) :
    (outcome (load inet (some path) source config)).1 = false →
      (outcome (load inet (some path) source config)).2 = {} := by
  obtain ⟨c, rest, rfl⟩ := List.exists_cons_of_ne_nil some'
  rw [outcome_load]
  simp only
  cases (loadSource inet (c :: rest) source).toOption with
  | none =>
      intro _
      rfl
  | some loaded =>
      intro failed
      cases failed

theorem loadSource_toOption (inet : Inet) (path : List UInt8) {bytes : List UInt8}
    (failed : Option (List UInt8)) (small : bytes.length ≤ maxBytes) :
    (loadSource inet path (.opened bytes failed)).toOption =
      (Run.run accept {} (statements bytes)).bind fun loader =>
        match failed with
        | some _ => none
        | none => (finalizeConfig inet loader).toOption := by
  have fits : 0 + (getlines bytes).flatten.length ≤ maxBytes := by
    rw [flatten_getlines]
    omega
  have read := readLines_toOption 0 {} fits
  unfold statements
  rw [← read]
  simp only [loadSource]
  cases readLines 0 0 {} (getlines bytes) with
  | error failure => rfl
  | ok loader => cases failed <;> rfl

/-- The order of the assignments does not matter, nor do blank and comment lines. -/
theorem load_rearranged (inet : Inet) (path : Option (List UInt8)) {bytes other : List UInt8}
    (failed : Option (List UInt8)) (config : Config) (small : bytes.length ≤ maxBytes)
    (small' : other.length ≤ maxBytes)
    (rearranged : Rearranged (statements bytes) (statements other)) :
    outcome (load inet path (.opened bytes failed) config) =
      outcome (load inet path (.opened other failed) config) := by
  rw [outcome_load, outcome_load]
  cases path with
  | none => rfl
  | some path =>
      cases path with
      | nil => rfl
      | cons c rest =>
          simp only [loadSource_toOption inet _ failed small,
            loadSource_toOption inet _ failed small', run_rearranged rearranged]

/-- A file whose statements are not accepted in turn does not load. -/
theorem load_refused (inet : Inet) (path : Option (List UInt8)) {bytes : List UInt8}
    (failed : Option (List UInt8)) (config : Config)
    (refused : Run.run accept {} (statements bytes) = none) :
    (outcome (load inet path (.opened bytes failed) config)).1 = false := by
  rw [outcome_load]
  cases path with
  | none => rfl
  | some path =>
      cases path with
      | nil => rfl
      | cons c rest =>
          simp only [loadSource]
          cases read : readLines 0 0 {} (getlines bytes) with
          | error failure => rfl
          | ok loader =>
              have ran : Run.run accept {} (statements bytes) = some loader :=
                run_of_readLines read
              rw [ran] at refused
              cases refused

/-- A line of white space and perhaps a comment says nothing. -/
theorem readLine_blank {blank remark : List UInt8} (spaces : Spaces blank)
    (isRemark : Remark remark) : readLine (blank ++ remark) = .blank := by
  have noNul : 0 ∉ blank ++ remark := by
    rw [List.mem_append, not_or]
    refine ⟨spaces.plain.2.2.2, ?_⟩
    rcases isRemark with rfl | ⟨comment, rfl, absent⟩
    · exact List.not_mem_nil
    · rw [List.mem_cons, not_or]
      exact ⟨by decide, absent⟩
  have nothing : trim (stripComment (blank ++ remark)) = [] := by
    unfold stripComment
    rw [stripFrom_remark spaces isRemark]
    have trimmed : Trimmed [] := ⟨stops_nil, stops_nil⟩
    have trims : trim ([] ++ blank) = [] := trim_spaces_right trimmed spaces
    exact trims
  unfold readLine
  rw [if_neg noNul, nothing]
  exact if_pos rfl

end TcpShift.ServiceConfig
