import SourceMatch.CommandLine.VerifyCommand
import SourceMatch.Proofs.CommandLine.Action
import SourceMatch.Proofs.Compiler.Requests
import SourceMatch.Proofs.Compiler.Match
import SourceMatch.Proofs.Registry
import SourceMatch.Proofs.Tree.Loading
import SourceMatch.Proofs.Workflow.Transition

/-!
All that the verify command can come to. It stops where something cannot be read, no compiler is
selected, an import is not found or the code differs, or it goes through all steps of a
verification. What it checks on the way makes each of its steps complete, so that the verification
never refuses to go on: the only error of the verification itself is one of the registry.
-/
namespace SourceMatch

namespace Workflow

variable {w : Workflow} {s : State} {now : Timestamp}

theorem next_of_isReady {target : Step} (live : s.disposed = false) (idle : s.busy = false)
    (ready : w.isReady s = true) (step : s.step.next? = some target)
    (silent : target = .compilerSelection ∨ target = .importResolution) :
    w.next s now = ({ s with step := target }, .ended (.ok target)) := by
  rcases silent with rfl | rfl <;> simp [next, live, idle, step, ready]

theorem next_compile {version : String} (live : s.disposed = false) (idle : s.busy = false)
    (step : s.step = .importResolution) (selected : s.compilerVersion = some version)
    (resolved : unresolvedCount s = 0) :
    w.next s now =
      ({ s with step := .compileAndCompare, busy := true, generation := s.generation + 1 },
        .waiting (.compile (s.generation + 1) (w.compilerInput s version))) := by
  have ready : w.isReady s = true := by simp [isReady, step, selected, resolved]
  simp [next, live, idle, step, Step.next?, ready, beginCompile, selected]

theorem next_eq_beginRegister {found : ContractMatch} (live : s.disposed = false)
    (idle : s.busy = false) (step : s.step = .compileAndCompare)
    (matched : w.match? s = some found) (isMatch : found.kind.isMatch = true) :
    w.next s now = w.beginRegister s now := by
  have ready : w.isReady s = true := by simp [isReady, step, matched, isMatch]
  simp [next, live, idle, step, Step.next?, ready]

theorem beginRegister_of_match? {found : ContractMatch} (matched : w.match? s = some found) :
    w.beginRegister s now =
      match w.registration? s found now with
      | some record => ({ s with busy := true }, .waiting (.register s.generation record))
      | none => ({ s with step := .register }, .ended (.ok .register)) := by
  cases known : w.registration? s found now <;> simp [beginRegister, matched, known]

theorem isCurrent_self (live : s.disposed = false) : isCurrent s s.generation = true := by
  simp [isCurrent, live]

end Workflow

namespace CommandLine

/-- The disk, the services and the clock are the same; the printed lines may differ. -/
structure World.Alike (w w' : World) : Prop where
  disk : w'.disk = w.disk
  network : w'.network = w.network
  now : w'.now = w.now

theorem World.Alike.refl (w : World) : w.Alike w := ⟨rfl, rfl, rfl⟩

namespace VerifyCommand

open SourceMatch.CommandLine.Action

variable {a : VerifyArguments} {p : Setup} {s s' : Workflow.State} {w w' : World}

def importsRoot (a : VerifyArguments) : String := (a.imports.or (Path.parent? a.source)).getD "."

def registryPath? (a : VerifyArguments) (w : World) : Option String :=
  a.registry.or (w.home.map Registry.underHome)

def Opens (a : VerifyArguments) (w : World) (registry : Registry) (disk : Disk) : Prop :=
  ∃ path, registryPath? a w = some path ∧ Registry.openAt w.disk path = .ok (registry, disk)

theorem Opens.unique {registry registry' : Registry} {disk disk' : Disk}
    (h : Opens a w registry disk) (h' : Opens a w registry' disk') :
    registry' = registry ∧ disk' = disk := by
  obtain ⟨path, known, opened⟩ := h
  obtain ⟨path', known', opened'⟩ := h'
  cases known.symm.trans known'
  cases opened.symm.trans opened'
  exact ⟨rfl, rfl⟩

structure Prepared (a : VerifyArguments) (w : World) (p : Setup) (w' : World) : Prop where
  fileName : Path.fileName? a.source = some p.fileName.toList
  source : w.disk.read a.source = .ok p.source
  tree : SourceTree.load w.disk (importsRoot a) = .ok p.tree
  index : CompilerIndex.fetch w.network a.indexUrl = (.ok p.workflow.index, w'.network)
  compiler : CompileService.ofUrl a.compilerUrl = .ok p.services.compiler
  workflow : p.workflow = Workflow.ofBytecode p.workflow.index {} a.contractId a.bytecode
  opened : Opens a w p.services.registry w'.disk
  now : w'.now = w.now

theorem Prepared.unique {p' : Setup} {opened opened' : World} (h : Prepared a w p opened)
    (h' : Prepared a w p' opened') :
    p' = p ∧ opened'.disk = opened.disk ∧ opened'.network = opened.network := by
  have fileName := String.toList_inj.1 (Option.some.inj (h'.fileName.symm.trans h.fileName))
  have source := Except.ok.inj (h'.source.symm.trans h.source)
  have tree := Except.ok.inj (h'.tree.symm.trans h.tree)
  have compiler := Except.ok.inj (h'.compiler.symm.trans h.compiler)
  obtain ⟨index, network⟩ := Prod.mk.inj (h'.index.symm.trans h.index)
  obtain ⟨registry, disk⟩ := h.opened.unique h'.opened
  have workflow : p'.workflow = p.workflow := by
    rw [h'.workflow, Except.ok.inj index]
    exact h.workflow.symm
  refine ⟨?_, disk, network⟩
  obtain ⟨_, _, _, _, _, _⟩ := p
  obtain ⟨_, _, _, _, _, _⟩ := p'
  simp_all

def isReadingError : CommandError → Bool
  | .unreadable _ _ | .notAFile _ | .sources _ | .index _ | .registry _ | .compiler _ => true
  | _ => false

theorem meets_openRegistry {post : Except CommandError Registry → World → Prop}
    (ok : ∀ registry disk, Opens a w registry disk → post (.ok registry) { w with disk })
    (error : ∀ e, (∀ registry disk, ¬Opens a w registry disk) → post (.error (.registry e)) w) :
    (openRegistry a.registry).Meets w post := by
  have opened : ∀ path, registryPath? a w = some path →
      (lift CommandError.registry (Registry.openAt w.disk path) >>= fun r => do
        modify fun w => { w with disk := r.2 }
        return r.1 : Action Registry).Meets w post := by
    intro path known
    refine .bind_lift (fun r h => ok r.1 r.2 ⟨path, known, h⟩) fun e failed => error e ?_
    rintro registry disk ⟨path', known', opened⟩
    cases known.symm.trans known'
    cases failed.symm.trans opened
  unfold openRegistry
  refine .bind_get ?_
  cases given : a.registry with
  | some path => exact opened path (by rw [registryPath?, given]; rfl)
  | none =>
    cases home : w.home with
    | some folder => exact opened _ (by rw [registryPath?, given, home]; rfl)
    | none =>
      refine error .noHome ?_
      rintro registry disk ⟨path, known, -⟩
      simp [registryPath?, given, home] at known

theorem meets_prepare (a : VerifyArguments) (w : World) :
    (prepare a).Meets w fun r w' =>
      match r with
      | .ok p => Prepared a w p w'
      | .error e => isReadingError e = true ∧ (∀ p opened, ¬Prepared a w p opened) ∧
          (w'.disk = w.disk ∨ ∃ registry, Opens a w registry w'.disk) := by
  unfold prepare
  refine .bind (.bind_get (meets_lift (fun source read => ?_) fun e failed => ?unread))
  case unread => exact ⟨rfl, fun p opened h => (nomatch failed.symm.trans h.source), .inl rfl⟩
  cases name : Path.fileName? a.source with
  | none => exact ⟨rfl, fun p opened h => (nomatch name.symm.trans h.fileName), .inl rfl⟩
  | some fileName =>
    refine .bind (.bind_get (meets_lift (fun tree loaded => ?_) fun e failed => ?unloaded))
    case unloaded => exact ⟨rfl, fun p opened h => (nomatch failed.symm.trans h.tree), .inl rfl⟩
    refine .bind (.bind_get (.bind_modify ?_))
    refine meets_lift (fun index fetched => ?_) fun e failed => ?unfetched
    case unfetched =>
      refine ⟨rfl, fun p opened h => ?_, .inl rfl⟩
      exact nomatch failed.symm.trans (congrArg Prod.fst h.index)
    refine .bind (meets_openRegistry (fun registry disk opened => ?_) fun e unopened => ?_)
    · refine .bind_lift (fun compiler usable => ?_) fun e unusable => ?_
      · exact
          { fileName := by rw [name, String.toList_ofList]
            source := read
            tree := loaded
            index := Prod.ext fetched rfl
            compiler := usable
            workflow := rfl
            opened := opened
            now := rfl }
      · refine ⟨rfl, fun p opened' h => ?_, .inr ⟨_, opened⟩⟩
        exact nomatch unusable.symm.trans h.compiler
    · exact ⟨rfl, fun p opened h => unopened _ _ h.opened, .inl rfl⟩

theorem meets_next_ended {services : Services} {v : Workflow} {step : Step}
    {post : Except CommandError Workflow.State → World → Prop}
    (started : v.next s w.now = (s', .ended (.ok step))) (h : post (.ok s') w) :
    (next v services s).Meets w post := by
  unfold next
  refine .bind_get ?_
  rw [started]
  exact h

theorem meets_next_compile {services : Services} {v : Workflow} {generation : Nat}
    {input : CompilerInput} {post : Except CommandError Workflow.State → World → Prop}
    (started : v.next s w.now = (s', .waiting (.compile generation input)))
    (current : Workflow.isCurrent s' generation = true)
    (h : ∀ result network, services.compiler.compile w.network input = (result, network) →
      post (.ok { s' with busy := false, output := result.toOption }) { w with network }) :
    (next v services s).Meets w post := by
  unfold next
  refine .bind_get ?_
  rw [started]
  refine .bind (.bind_get ?_)
  dsimp only
  refine .bind_modify ?_
  rw [Workflow.finishCompile_wanted _ current]
  exact h _ _ rfl

theorem meets_next_register {services : Services} {v : Workflow} {generation : Nat}
    {record : Registration} {post : Except CommandError Workflow.State → World → Prop}
    (started : v.next s w.now = (s', .waiting (.register generation record)))
    (current : Workflow.isCurrent s' generation = true)
    (ok : ∀ s disk, services.registry.register w.disk record = .ok disk →
      post (.ok s) { w with disk })
    (error : ∀ e, services.registry.register w.disk record = .error e →
      post (.error (.workflow (.registry e))) w) :
    (next v services s).Meets w post := by
  unfold next
  refine .bind_get ?_
  rw [started]
  refine .bind (.bind_get ?_)
  cases registered : services.registry.register w.disk record with
  | error e => exact error e registered
  | ok disk =>
    refine .bind_modify ?_
    rw [Workflow.finishRegister_wanted current]
    exact ok _ disk registered

/-- The compiler that was asked for, which the index has, or else the one that the source
selects. -/
inductive Selects (p : Setup) : Option String → String → Prop
  | requested {version : String} (known : p.workflow.index.contains version = true) :
      Selects p (some version) version
  | resolved {version : String} (resolved : p.workflow.index.resolve? p.source = some version) :
      Selects p none version

theorem Selects.unique {requested : Option String} {version version' : String}
    (h : Selects p requested version) (h' : Selects p requested version') : version' = version := by
  cases h with
  | requested => cases h'; rfl
  | resolved resolved =>
    cases h' with
    | resolved resolved' => exact Option.some.inj (resolved'.symm.trans resolved)

def entered (p : Setup) (version : String) : Workflow.State :=
  { p.workflow.setSource {} p.fileName (some p.source) with
    step := .importResolution
    compilerVersion := some version }

def isSelectionError : CommandError → Bool
  | .unknownCompiler _ | .noCompiler _ => true
  | _ => false

theorem meets_selectCompiler (p : Setup) (requested : Option String)
    (guessed : s.compilerVersion = p.workflow.index.resolve? p.source) :
    (selectCompiler p.workflow s requested).Meets w fun r w' =>
      w' = w ∧
        match r with
        | .ok s' => s' = { s with compilerVersion := s'.compilerVersion } ∧
            ∀ version, s'.compilerVersion = some version ↔ Selects p requested version
        | .error e => isSelectionError e = true ∧ ∀ version, ¬Selects p requested version := by
  cases requested with
  | none =>
    refine ⟨rfl, rfl, fun version => ⟨fun selected => .resolved (guessed ▸ selected), ?_⟩⟩
    rintro ⟨⟩
    rw [guessed]
    assumption
  | some requested =>
    unfold selectCompiler
    dsimp only
    split
    · rename_i known
      refine ⟨rfl, rfl, fun version => ⟨?_, ?_⟩⟩
      · rintro ⟨⟩
        exact .requested known
      · rintro ⟨⟩
        rfl
    · rename_i unknown
      refine ⟨rfl, rfl, ?_⟩
      rintro version ⟨known⟩
      exact unknown known

theorem meets_enter (p : Setup) (requested : Option String) (w : World) :
    (enter p requested).Meets w fun r w' =>
      w.Alike w' ∧
        match r with
        | .ok s => ∃ version, Selects p requested version ∧ s = entered p version
        | .error e => isSelectionError e = true ∧ ∀ version, ¬Selects p requested version := by
  have opening : p.workflow.next (p.workflow.setSource {} p.fileName (some p.source)) w.now = _ :=
    Workflow.next_of_isReady rfl rfl rfl rfl (.inl rfl)
  unfold enter
  refine .bind (meets_next_ended opening ?_)
  refine .followed (meets_selectCompiler p requested rfl) ?_ ?_
  · rintro s w ⟨rfl, same, selects⟩
    cases selected : s.compilerVersion with
    | none =>
      refine ⟨.refl _, rfl, fun version selects' => ?_⟩
      rw [(selects version).2 selects'] at selected
      cases selected
    | some version =>
      rw [selected] at same
      have leaving : p.workflow.next s w.now =
          (entered p version, .ended (.ok .importResolution)) := by
        rw [same]
        exact Workflow.next_of_isReady rfl rfl rfl rfl (.inr rfl)
      refine .bind_modify (meets_next_ended leaving ?_)
      exact ⟨⟨rfl, rfl, rfl⟩, version, (selects version).1 selected, rfl⟩
  · rintro e _ ⟨rfl, cause⟩
    exact ⟨.refl _, cause⟩

theorem fillFrom_eq (v : Workflow) (tree : SourceTree) (fuel : Nat) (s : Workflow.State) :
    fillFrom v tree fuel s = { s with imports := (fillFrom v tree fuel s).imports } := by
  induction fuel generalizing s with
  | zero => rfl
  | succ fuel ih =>
    rw [fillFrom]
    split
    · rfl
    · exact ih _

theorem fill_eq (v : Workflow) (tree : SourceTree) (s : Workflow.State) :
    fill v tree s = { s with imports := (fill v tree s).imports } :=
  fillFrom_eq v tree _ s

def gathered (p : Setup) (version : String) : Workflow.State :=
  { entered p version with imports := (fill p.workflow p.tree (entered p version)).imports }

theorem fill_entered (p : Setup) (version : String) :
    fill p.workflow p.tree (entered p version) = gathered p version :=
  fill_eq _ _ _

def unresolvedPaths (s : Workflow.State) : List String :=
  (s.imports.filter (!·.isResolved)).map (·.path)

theorem unresolvedCount_eq_zero (h : unresolvedPaths s = []) : Workflow.unresolvedCount s = 0 := by
  rw [Workflow.unresolvedCount, Import.unresolvedCount, List.countP_eq_length_filter,
    List.map_eq_nil_iff.1 h]
  rfl

theorem meets_resolve (p : Setup) (s : Workflow.State) (w : World) :
    (resolve p s).Meets w fun r w' =>
      w' = w ∧
        match r with
        | .ok s' => s' = fill p.workflow p.tree s ∧ unresolvedPaths s' = []
        | .error e => e = .unresolvedImports (unresolvedPaths (fill p.workflow p.tree s)) ∧
            unresolvedPaths (fill p.workflow p.tree s) ≠ [] := by
  unfold resolve
  dsimp only
  cases missing : unresolvedPaths (fill p.workflow p.tree s) with
  | nil =>
    rw [unresolvedPaths] at missing
    rw [missing]
    exact ⟨rfl, rfl, missing⟩
  | cons path paths =>
    rw [unresolvedPaths] at missing
    rw [missing]
    exact ⟨rfl, rfl, by simp⟩

def compiled (p : Setup) (version : String) (output : CompileOutput) : Workflow.State :=
  { gathered p version with
    step := .compileAndCompare
    generation := (gathered p version).generation + 1
    output := some output }

theorem meets_reportErrors (output : CompileOutput) (w : World) :
    (reportErrors output).Meets w fun r w' => r = .ok () ∧ w.Alike w' := by
  rw [reportErrors]
  generalize output.messages.filter _ = messages
  induction messages generalizing w with
  | nil => exact ⟨rfl, .refl w⟩
  | cons message messages ih =>
    rw [List.forM]
    refine .bind_modify (.imp (ih _) fun r w' reported => ⟨reported.1, ?_⟩)
    exact ⟨reported.2.disk, reported.2.network, reported.2.now⟩

theorem meets_compare {version : String} (resolved : unresolvedPaths (gathered p version) = [])
    (w : World) :
    (compare p (gathered p version)).Meets w fun r w' =>
      w'.disk = w.disk ∧ w'.now = w.now ∧
        match r with
        | .ok (s, found) => ∃ output, s = compiled p version output ∧
            p.services.compiler.compile w.network
              (p.workflow.compilerInput (gathered p version) version) = (.ok output, w'.network) ∧
            output.findMatch? p.fileName p.workflow.deployed = some found
        | .error e => e = .mismatch p.fileName ∧ ∃ answer,
            p.services.compiler.compile w.network
              (p.workflow.compilerInput (gathered p version) version) = (answer, w'.network) ∧
            ∀ output, answer = .ok output →
              output.findMatch? p.fileName p.workflow.deployed = none := by
  have calling : p.workflow.next (gathered p version) w.now = _ :=
    Workflow.next_compile rfl rfl rfl rfl (unresolvedCount_eq_zero resolved)
  unfold compare
  refine .bind (meets_next_compile calling (Workflow.isCurrent_self rfl) ?_)
  intro result network answered
  cases result with
  | error e => exact ⟨rfl, rfl, rfl, _, answered, nofun⟩
  | ok output =>
    refine .followed (meets_reportErrors output _) ?_ (fun e w' reported => nomatch reported.1)
    rintro _ w' ⟨-, reported⟩
    have compiled : p.services.compiler.compile w.network
        (p.workflow.compilerInput (gathered p version) version) = (.ok output, w'.network) := by
      rw [answered, reported.network]
    split
    · rename_i found known
      have matched := (Option.filter_eq_some_iff.1 known).1
      exact .bind_modify ⟨reported.disk, reported.now, output, rfl, compiled, matched⟩
    · rename_i none
      refine ⟨reported.disk, reported.now, rfl, _, compiled, ?_⟩
      rintro _ ⟨⟩
      rw [Option.eq_none_iff_forall_ne_some]
      intro found matched
      exact none found (Option.filter_eq_some_iff.2
        ⟨matched, CompileOutput.isMatch_of_findMatch? matched⟩)

def recordOf (p : Setup) (version : String) (found : ContractMatch) (now : Timestamp)
    (contractId : String) : Registration where
  contractId
  contractName := found.contract.name
  compilerVersion := version
  sourceFileName := p.fileName
  matchKind := found.kind
  abi := found.contract.abi
  timestamp := now

inductive Recorded (p : Setup) (version : String) (found : ContractMatch) (now : Timestamp)
    (disk disk' : Disk) : Option String → Prop
  | under {contractId : String}
      (registered : p.services.registry.register disk (recordOf p version found now contractId) =
        .ok disk') :
      Recorded p version found now disk disk' (some contractId)
  | skipped (same : disk' = disk) : Recorded p version found now disk disk' none

inductive Unrecorded (p : Setup) (version : String) (found : ContractMatch) (now : Timestamp)
    (disk : Disk) (error : RegistryError) : Option String → Prop
  | under {contractId : String}
      (refused : p.services.registry.register disk (recordOf p version found now contractId) =
        .error error) :
      Unrecorded p version found now disk error (some contractId)

theorem registration?_compiled {version : String} {output : CompileOutput} {found : ContractMatch}
    (named : output.contract? p.fileName found.contract.name = some found.contract)
    (now : Timestamp) :
    p.workflow.registration? (compiled p version output) found now =
      p.workflow.contractId.map (recordOf p version found now) := by
  have abi : ((compiled p version output).output.bind
      (·.contract? p.fileName found.contract.name)).map (·.abi) = some found.contract.abi := by
    simp [compiled, named]
  rw [Workflow.registration?]
  congr 1
  funext contractId
  dsimp only [recordOf]
  congr 1
  exact congrArg (·.getD .null) abi

theorem meets_register {version : String} {output : CompileOutput} {found : ContractMatch}
    (matched : output.findMatch? p.fileName p.workflow.deployed = some found)
    (named : output.contract? p.fileName found.contract.name = some found.contract) (w : World) :
    (register p (compiled p version output) found p.workflow.contractId).Meets w fun r w' =>
      match r with
      | .ok () =>
        Recorded p version found w.now w.disk w'.disk p.workflow.contractId ∧
          w'.network = w.network
      | .error e => w'.disk = w.disk ∧ w'.network = w.network ∧
          ∃ error, e = .workflow (.registry error) ∧
            Unrecorded p version found w.now w.disk error p.workflow.contractId := by
  have matching : p.workflow.match? (compiled p version output) = some found := matched
  have going : p.workflow.next (compiled p version output) w.now = _ :=
    Workflow.next_eq_beginRegister rfl rfl rfl matching
      (CompileOutput.isMatch_of_findMatch? matched)
  rw [Workflow.beginRegister_of_match? matching, registration?_compiled named] at going
  unfold register
  cases known : p.workflow.contractId with
  | none =>
    rw [known] at going
    exact .bind (meets_next_ended going ⟨.skipped rfl, rfl⟩)
  | some contractId =>
    rw [known] at going
    refine .bind (meets_next_register going (Workflow.isCurrent_self rfl) ?_ fun error => ?_)
    · intro s disk registered
      exact ⟨.under registered, rfl⟩
    · intro refused
      exact ⟨rfl, rfl, error, rfl, .under refused⟩

/-- The command compiles: everything is read, a compiler is selected and no import is missing. -/
structure Compiles (a : VerifyArguments) (w : World) (p : Setup) (opened : World)
    (version : String) (answer : Except CompileError CompileOutput) (network : Http.Network) :
    Prop where
  prepared : Prepared a w p opened
  selects : Selects p a.compilerVersion version
  resolved : unresolvedPaths (gathered p version) = []
  compiled : p.services.compiler.compile opened.network
    (p.workflow.compilerInput (gathered p version) version) = (answer, network)

theorem Compiles.unique {p' : Setup} {opened opened' : World} {version version' : String}
    {answer answer' : Except CompileError CompileOutput} {network network' : Http.Network}
    (h : Compiles a w p opened version answer network)
    (h' : Compiles a w p' opened' version' answer' network') :
    p' = p ∧ opened'.disk = opened.disk ∧ version' = version ∧ answer' = answer := by
  obtain ⟨rfl, disk, reached⟩ := h.prepared.unique h'.prepared
  obtain rfl := h.selects.unique h'.selects
  have compiled := h'.compiled
  rw [reached, h.compiled] at compiled
  exact ⟨rfl, disk, rfl, (Prod.mk.inj compiled).1.symm⟩

/-- A verification that came to its end: what was compiled, which contract matched, and what became
of the disk. -/
structure Verified (a : VerifyArguments) (w : World) (p : Setup) (opened : World)
    (version : String) (output : CompileOutput) (found : ContractMatch) (w' : World) : Prop
    extends Compiles a w p opened version (.ok output) w'.network where
  matched : output.findMatch? p.fileName p.workflow.deployed = some found
  recorded : Recorded p version found w.now opened.disk w'.disk a.contractId

/-- All that the command can come to, and when. -/
inductive Course (a : VerifyArguments) (w : World) : Except CommandError Unit → World → Prop
  | unread {e : CommandError} {w' : World} (cause : isReadingError e = true)
      (unprepared : ∀ p opened, ¬Prepared a w p opened)
      (disk : w'.disk = w.disk ∨ ∃ registry, Opens a w registry w'.disk) : Course a w (.error e) w'
  | unselected {p : Setup} {opened w' : World} {e : CommandError} (prepared : Prepared a w p opened)
      (cause : isSelectionError e = true)
      (unselected : ∀ version, ¬Selects p a.compilerVersion version)
      (disk : w'.disk = opened.disk) : Course a w (.error e) w'
  | unresolved {p : Setup} {opened w' : World} {version : String} (prepared : Prepared a w p opened)
      (selects : Selects p a.compilerVersion version)
      (missing : unresolvedPaths (gathered p version) ≠ []) (disk : w'.disk = opened.disk)
      (network : w'.network = opened.network) :
      Course a w (.error (.unresolvedImports (unresolvedPaths (gathered p version)))) w'
  | mismatched {p : Setup} {opened w' : World} {version : String}
      {answer : Except CompileError CompileOutput}
      (compiles : Compiles a w p opened version answer w'.network)
      (differs : ∀ output, answer = .ok output →
        output.findMatch? p.fileName p.workflow.deployed = none)
      (disk : w'.disk = opened.disk) : Course a w (.error (.mismatch p.fileName)) w'
  | unregistered {p : Setup} {opened w' : World} {version : String} {output : CompileOutput}
      {found : ContractMatch} {e : RegistryError}
      (compiles : Compiles a w p opened version (.ok output) w'.network)
      (matched : output.findMatch? p.fileName p.workflow.deployed = some found)
      (unrecorded : Unrecorded p version found w.now opened.disk e a.contractId)
      (disk : w'.disk = opened.disk) : Course a w (.error (.workflow (.registry e))) w'
  | verified {p : Setup} {opened w' : World} {version : String} {output : CompileOutput}
      {found : ContractMatch} (verified : Verified a w p opened version output found w') :
      Course a w (.ok ()) w'

theorem meets_finish {opened loaded : World} {version : String} (prepared : Prepared a w p opened)
    (selects : Selects p a.compilerVersion version)
    (resolved : unresolvedPaths (gathered p version) = []) (alike : opened.Alike loaded) :
    (do
      let (s, found) ← compare p (gathered p version)
      register p s found a.contractId : Action Unit).Meets loaded fun r w' =>
        Course a w r w' ∧ ∀ e, r = .error e → isReadingError e = false := by
  have contractId : p.workflow.contractId = a.contractId := by rw [prepared.workflow]; rfl
  refine .followed (meets_compare resolved loaded) ?_ ?_
  · rintro ⟨_, found⟩ compared ⟨disk, now, output, rfl, compiled, matched⟩
    obtain ⟨v, read⟩ := CompileService.exists_json_of_compile compiled
    have named := CompileOutput.contract?_of_findMatch? read matched
    rw [alike.network] at compiled
    rw [alike.disk] at disk
    rw [alike.now, prepared.now] at now
    rw [← contractId]
    refine .imp (meets_register matched named compared) ?_
    rintro (e | _) w' registered
    · obtain ⟨same, network, error, rfl, unrecorded⟩ := registered
      rw [now, disk, contractId] at unrecorded
      rw [← network] at compiled
      refine ⟨.unregistered ⟨prepared, selects, resolved, compiled⟩ matched unrecorded
        (same.trans disk), ?_⟩
      rintro _ ⟨⟩
      rfl
    · obtain ⟨recorded, network⟩ := registered
      rw [now, disk, contractId] at recorded
      rw [← network] at compiled
      refine ⟨.verified ⟨⟨prepared, selects, resolved, compiled⟩, matched, recorded⟩, ?_⟩
      rintro _ ⟨⟩
  · rintro e w' ⟨disk, -, rfl, answer, compiled, differs⟩
    rw [alike.network] at compiled
    refine ⟨.mismatched ⟨prepared, selects, resolved, compiled⟩ differs
      (disk.trans alike.disk), ?_⟩
    rintro _ ⟨⟩
    rfl

theorem meets_goOn {opened : World} (prepared : Prepared a w p opened) :
    (do
      let s ← enter p a.compilerVersion
      let s ← resolve p s
      let (s, found) ← compare p s
      register p s found a.contractId : Action Unit).Meets opened fun r w' =>
        Course a w r w' ∧ ∀ e, r = .error e → isReadingError e = false := by
  refine .followed (meets_enter p a.compilerVersion opened) ?_ ?_
  · rintro _ entered ⟨alike, version, selects, rfl⟩
    refine .followed (meets_resolve p (VerifyCommand.entered p version) entered) ?_ ?_
    · rintro s loaded ⟨rfl, rfl, resolved⟩
      rw [fill_entered] at resolved ⊢
      exact meets_finish prepared selects resolved alike
    · rintro e loaded ⟨rfl, rfl, missing⟩
      rw [fill_entered] at missing ⊢
      exact ⟨.unresolved prepared selects missing alike.disk alike.network, by rintro _ ⟨⟩; rfl⟩
  · rintro e w' ⟨alike, cause, unselected⟩
    refine ⟨.unselected prepared cause unselected alike.disk, ?_⟩
    rintro _ ⟨⟩
    cases e <;> first | rfl | cases cause

theorem meets_run (a : VerifyArguments) (w : World) : (run a).Meets w (Course a w) := by
  unfold run
  refine .followed (meets_prepare a w) ?_ fun e w' ⟨cause, unprepared, disk⟩ =>
    .unread cause unprepared disk
  exact fun p opened prepared => .imp (meets_goOn prepared) fun _ _ => And.left

theorem meets_run_of_matched {version : String} {output : CompileOutput} {found : ContractMatch}
    {opened : World} {network : Http.Network}
    (compiles : Compiles a w p opened version (.ok output) network)
    (matched : output.findMatch? p.fileName p.workflow.deployed = some found)
    (recorded : ∀ e, ¬Unrecorded p version found w.now opened.disk e a.contractId) :
    (run a).Meets w fun r _ => r = .ok () := by
  refine .imp (meets_run a w) fun r w' course => ?_
  cases course with
  | unread _ unprepared => exact absurd compiles.prepared (unprepared _ _)
  | unselected prepared _ unselected =>
    obtain ⟨rfl, -⟩ := compiles.prepared.unique prepared
    exact absurd compiles.selects (unselected _)
  | unresolved prepared selects missing =>
    obtain ⟨rfl, -⟩ := compiles.prepared.unique prepared
    obtain rfl := compiles.selects.unique selects
    exact absurd compiles.resolved missing
  | mismatched compiles' differs =>
    obtain ⟨rfl, -, rfl, rfl⟩ := compiles.unique compiles'
    cases matched.symm.trans (differs output rfl)
  | unregistered compiles' matched' unrecorded =>
    obtain ⟨rfl, disk, rfl, ⟨⟩⟩ := compiles.unique compiles'
    cases matched.symm.trans matched'
    rw [disk] at unrecorded
    exact absurd unrecorded (recorded _)
  | verified => rfl

def sampleUrl : Url :=
  { scheme := "https".toList, host := some "server".toList, path := .segments [[]] }

def sampleIndex : CompilerIndex := ⟨[], Dict.ofList [("0.8.17", "a"), ("0.8.18", "b")]⟩

def sampleResponse : Http.Response :=
  ⟨200, "\x7b\"releases\": \x7b\"0.8.17\": \"a\", \"0.8.18\": \"b\"\x7d\x7d", none, true⟩

def sampleSource : String := "pragma solidity ^0.8.0; import \"./B.sol\";"

def sampleWorld (library : String) (reactions : List Http.Reaction) : World where
  disk :=
    { entries := [(["A.sol".toList], .text sampleSource), (["lib".toList], .folder),
        (["lib".toList, "B.sol".toList], .text library)] }
  network := { reactions := .answer 200 sampleResponse.body none true :: reactions }
  home := none
  now := default

def sampleArguments (contractId : Option String) : VerifyArguments :=
  ⟨"A.sol", some "lib", "0x6001", contractId, none, sampleUrl, sampleUrl, some "verified.json"⟩

def sampleSetup (library : String) (contractId : Option String) : Setup where
  fileName := "A.sol"
  source := sampleSource
  tree := ⟨[("B.sol", library)]⟩
  workflow := .ofBytecode sampleIndex {} contractId "0x6001"
  services := ⟨⟨sampleUrl⟩, ⟨"verified.json"⟩⟩

theorem load_sample (library : String) (reactions : List Http.Reaction) :
    SourceTree.load (sampleWorld library reactions).disk "lib" = .ok ⟨[("B.sol", library)]⟩ := by
  have folder : (sampleWorld library reactions).disk.find "lib" false =
      .ok (.entry ["lib".toList] .folder) :=
    Disk.find_of_names (show _ ∧ _ ∧ _ = ["lib".toList] by decide +kernel)
      (.folder (by decide) rfl .here)
  have only : (sampleWorld library reactions).disk.children ["lib".toList] =
      [("B.sol".toList, .text library)] := by
    simp [Disk.children, sampleWorld]
  have below : Path.join "lib" "B.sol" = "lib/B.sol" := by decide +kernel
  have imported : (sampleWorld library reactions).disk.read (Path.join "lib" "B.sol") =
      .ok library := by
    rw [below]
    exact Disk.read_of_find (Disk.find_of_names
      (show _ ∧ _ ∧ _ = ["lib".toList, "B.sol".toList] by decide +kernel)
      (.folder (by decide) rfl (.file (by decide) rfl rfl)))
  have extension : Path.extension? (Path.join "lib" "B.sol") =
      some SourceTree.sourceExtension := by decide +kernel
  exact SourceTree.load_of_only folder only extension imported

theorem fetch_sample (library : String) (reactions : List Http.Reaction) :
    CompilerIndex.fetch (sampleWorld library reactions).network sampleUrl =
      (.ok sampleIndex, ⟨true, reactions, [⟨.get, sampleUrl, none, none⟩]⟩) := by
  have user : Http.withoutUser sampleUrl = sampleUrl := by decide +kernel
  have askable : Http.isAskable sampleUrl = true := by decide +kernel
  have sent : (sampleWorld library reactions).network.send ⟨.get, sampleUrl, none, none⟩ =
      (.ok sampleResponse, ⟨true, reactions, [⟨.get, sampleUrl, none, none⟩]⟩) := by
    simp only [Http.Network.send, user, askable]
    rfl
  have fetched : CompilerIndex.ofResponse sampleUrl sampleResponse = .ok sampleIndex := by
    decide +kernel
  exact CompilerIndex.fetch_of_response sent fetched

theorem prepared_sample (library : String) (reactions : List Http.Reaction)
    (contractId : Option String) :
    Prepared (sampleArguments contractId) (sampleWorld library reactions)
      (sampleSetup library contractId)
      { sampleWorld library reactions with
        network := ⟨true, reactions, [⟨.get, sampleUrl, none, none⟩]⟩ } := by
  have source : (sampleWorld library reactions).disk.read "A.sol" = .ok sampleSource :=
    Disk.read_of_find (Disk.find_of_names
      (show _ ∧ _ ∧ _ = ["A.sol".toList] by decide +kernel) (.file (by decide) rfl rfl))
  have above : Path.parent? "verified.json" = some "" := by decide +kernel
  exact
    { fileName := show Path.fileName? "A.sol" = some "A.sol".toList by decide +kernel
      source := source
      tree := load_sample library reactions
      index := fetch_sample library reactions
      compiler := rfl
      workflow := rfl
      opened := ⟨"verified.json", rfl, Registry.openAt_of_hasFolder fun folder known =>
        .inl (Option.some.inj (known.symm.trans above))⟩
      now := rfl }

theorem selects_sample (library : String) (contractId : Option String) :
    Selects (sampleSetup library contractId) none "0.8.18" :=
  .resolved (show sampleIndex.resolve? sampleSource = some "0.8.18" by decide +kernel)

end VerifyCommand

end CommandLine

end SourceMatch
