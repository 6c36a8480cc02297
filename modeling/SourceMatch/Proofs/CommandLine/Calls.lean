import SourceMatch.CommandLine.Run
import SourceMatch.Proofs.CommandLine.Upload
import SourceMatch.Proofs.Session.Live

/-!
The calls of the commands that hand sources to a server. The calls that are due are made in their
order, and the first of them that fails ends the command with its error. The checks behind an upload
are made as well, and none of them ends the command.
-/
namespace SourceMatch.CommandLine

open Server (Answered Call Client)
open Session.Remote (followUps)

variable {target : Option Session.Target} {call : Call} {due rest : List Call}
  {talk : List Answered} {result : Except CommandError Unit} {c : Client} {n n' : Http.Network}

/-- All that can come of the calls that are due. -/
inductive CallCourse (target : Option Session.Target) :
    List Call → List Answered → Except CommandError Unit → Prop
  | done : CallCourse target [] [] (.ok ())
  | failed {first : Answered} {rest : List Call} {error : Server.Error}
      (refused : first.error? = some error) :
      CallCourse target (first.call :: rest) [first] (.error (.round (.ofError error)))
  | answered {first : Answered} {checked : List Answered} {rest : List Call} {talk : List Answered}
      {result : Except CommandError Unit} (accepted : first.error? = none)
      (calls : checked.map (·.call) = followUps target first)
      (onward : CallCourse target rest talk result) :
      CallCourse target (first.call :: rest) (first :: checked ++ talk) result

/-- The calls that are due are made over the network, with what comes of them. -/
def Plays (target : Option Session.Target) (due : List Call) (c : Client) (n : Http.Network)
    (result : Except CommandError Unit) (n' : Http.Network) : Prop :=
  ∃ talk c', c.Talks n talk c' n' ∧ CallCourse target due talk result

namespace CallCourse

def isCheck : Call → Bool
  | .verifyChecked _ => true
  | _ => false

theorem isCheck_of_followUps {a b : Answered} {checked : List Answered}
    (calls : checked.map (·.call) = followUps target a) (mem : b ∈ checked) :
    isCheck b.call = true := by
  have made : b.call ∈ followUps target a := calls ▸ List.mem_map_of_mem mem
  rw [followUps] at made
  split at made
  · cases target with
    | none => simp [Session.Remote.checks] at made
    | some target =>
      obtain ⟨id, -, made⟩ := List.mem_map.1 made
      rw [← made]
      rfl
  · simp at made

theorem ok_iff (h : CallCourse target due talk result) (distinct : due.Nodup)
    (plain : ∀ call ∈ due, isCheck call = false) :
    result = .ok () ↔
      ∀ call ∈ due, ∃ reply, ⟨call, reply⟩ ∈ talk ∧ Answered.error? ⟨call, reply⟩ = none := by
  induction h with
  | done => simp
  | @failed first rest error refused =>
    refine ⟨nofun, fun all => ?_⟩
    obtain ⟨reply, mem, accepted⟩ := all _ (List.mem_cons_self ..)
    rw [List.mem_singleton] at mem
    rw [mem, refused] at accepted
    cases accepted
  | @answered first checked rest talk result accepted calls onward ih =>
    obtain ⟨new, distinct⟩ := List.nodup_cons.1 distinct
    rw [ih distinct fun call mem => plain call (List.mem_cons_of_mem _ mem)]
    constructor
    · intro all call mem
      rcases List.mem_cons.1 mem with rfl | mem
      · exact ⟨first.reply, by simp, accepted⟩
      · obtain ⟨reply, told, no_error⟩ := all call mem
        exact ⟨reply, List.mem_append_right _ told, no_error⟩
    · intro all call mem
      obtain ⟨reply, told, no_error⟩ := all call (List.mem_cons_of_mem _ mem)
      refine ⟨reply, ?_, no_error⟩
      -- a call that is due later is neither the first one nor one of its checks
      rcases List.mem_append.1 told with told | told
      · rcases List.mem_cons.1 told with rfl | told
        · exact absurd mem new
        · have check := isCheck_of_followUps calls told
          rw [plain call (List.mem_cons_of_mem _ mem)] at check
          cases check
      · exact told

theorem last_of_error {e : CommandError} (h : CallCourse target due talk result)
    (failed : result = .error e) :
    ∃ before last error, talk = before ++ [last] ∧ last.call ∈ due ∧ last.error? = some error ∧
      e = .round (.ofError error) := by
  induction h with
  | done => cases failed
  | @failed first rest error refused =>
    cases failed
    exact ⟨[], first, error, rfl, List.mem_cons_self .., refused, rfl⟩
  | @answered first checked rest talk result accepted calls onward ih =>
    obtain ⟨before, last, error, split, mem, refused, e_eq⟩ := ih failed
    exact ⟨first :: checked ++ before, last, error, by rw [split, List.append_assoc],
      List.mem_cons_of_mem _ mem, refused, e_eq⟩

theorem of_nothing (h : CallCourse target [] talk result) : talk = [] ∧ result = .ok () := by
  cases h
  exact ⟨rfl, rfl⟩

theorem of_accepted {c' : Client} (h : CallCourse target (call :: rest) talk result)
    (talks : c.Talks n talk c' n') (accepted : Answered.error? ⟨call, (c.send n call).1⟩ = none) :
    ∃ checked talk' c₂ n₂, talk = ⟨call, (c.send n call).1⟩ :: checked ++ talk' ∧
      checked.map (·.call) = followUps target ⟨call, (c.send n call).1⟩ ∧
      (c.send n call).2.1.Talks (c.send n call).2.2 checked c₂ n₂ ∧
      c₂.Talks n₂ talk' c' n' ∧ CallCourse target rest talk' result := by
  cases h with
  | @failed first _ error refused =>
    rw [← talks.reply_eq] at accepted
    cases accepted.symm.trans refused
  | @answered first checked _ talk' _ _ calls onward =>
    cases talks with
    | next sent later =>
      rw [sent]
      obtain ⟨c₂, n₂, checks, more⟩ := later.split
      exact ⟨checked, talk', c₂, n₂, rfl, calls, checks, more, onward⟩

theorem of_accepted_alone {c' : Client} (h : CallCourse target (call :: rest) talk result)
    (talks : c.Talks n talk c' n') (accepted : Answered.error? ⟨call, (c.send n call).1⟩ = none)
    (alone : followUps target ⟨call, (c.send n call).1⟩ = []) :
    ∃ talk', talk = ⟨call, (c.send n call).1⟩ :: talk' ∧
      (c.send n call).2.1.Talks (c.send n call).2.2 talk' c' n' ∧
      CallCourse target rest talk' result := by
  obtain ⟨_, talk', _, _, rfl, calls, checks, talks', course⟩ := h.of_accepted talks accepted
  rw [alone] at calls
  obtain rfl := List.map_eq_nil_iff.1 calls
  cases checks
  exact ⟨talk', rfl, talks', course⟩

theorem only (h : CallCourse target [call] talk result)
    (alone : ∀ reply, followUps target ⟨call, reply⟩ = []) :
    ∃ reply, talk = [⟨call, reply⟩] ∧
      (Answered.error? ⟨call, reply⟩ = none ∧ result = .ok () ∨
        ∃ error, Answered.error? ⟨call, reply⟩ = some error ∧
          result = .error (.round (.ofError error))) := by
  cases h with
  | @failed first _ error refused => exact ⟨first.reply, rfl, .inr ⟨error, refused, rfl⟩⟩
  | @answered first checked _ talk _ accepted calls onward =>
    cases onward
    rw [alone, List.map_eq_nil_iff] at calls
    exact ⟨first.reply, by rw [calls]; rfl, .inl ⟨accepted, rfl⟩⟩

end CallCourse

open SourceMatch.CommandLine.Action
open Session.Remote (Opens begin)

theorem Plays.done (c : Client) (n : Http.Network) : Plays target [] c n (.ok ()) n :=
  ⟨[], c, .done, .done⟩

theorem Plays.failed {reply : Server.Reply} {error : Server.Error} {c' : Client}
    (talks : c.Talks n [⟨call, reply⟩] c' n')
    (refused : Answered.error? ⟨call, reply⟩ = some error) :
    Plays target (call :: rest) c n (.error (.round (.ofError error))) n' :=
  ⟨_, c', talks, .failed refused⟩

theorem Plays.answered {reply : Server.Reply} {checked : List Answered} {c' : Client}
    {mid : Http.Network} (talks : c.Talks n (⟨call, reply⟩ :: checked) c' mid)
    (accepted : Answered.error? ⟨call, reply⟩ = none)
    (calls : checked.map (·.call) = followUps target ⟨call, reply⟩)
    (onward : Plays target rest c' mid result n') : Plays target (call :: rest) c n result n' := by
  obtain ⟨talk, c'', more, course⟩ := onward
  exact ⟨_, c'', talks.append more, .answered accepted calls course⟩

namespace SessionCommand

theorem meets_conduct {s : Session.Remote.State} {round : Nat → Session.Remote.Round}
    {found : Session.Target} {w : World}
    {f : Session.Remote.State × Client → Action Unit} (opens : Opens call round)
    (idle : s.IsIdle)
    (onward : ∀ s' c' w', s'.IsIdle → w'.disk = w.disk →
      (f (s', c')).Meets w' fun r w'' => Plays (some found) rest c' w'.network r w''.network) :
    (conduct found c (begin s round) >>= f).Meets w
      fun r w' => Plays (some found) (call :: rest) c w.network r w'.network := by
  obtain ⟨idle', reply, checked, talks, ends⟩ :=
    Session.Remote.finishLive_begin (some found) opens idle c w.network
  unfold conduct
  refine .bind (.bind_get (.bind_modify ?_))
  generalize Session.Remote.finishLive (some found) c w.network (begin s round) = ended at *
  cases refused : Answered.error? ⟨call, reply⟩ with
  | some error =>
    rw [refused] at ends
    obtain ⟨rfl, outcome, failure⟩ := ends
    rw [outcome, failure]
    exact .failed talks refused
  | none =>
    rw [refused] at ends
    obtain ⟨calls, outcome⟩ := ends
    rw [outcome]
    refine .bind ?_
    exact (onward ended.state ended.client { w with network := ended.network } idle' rfl).imp
      fun _ _ more => Plays.answered talks refused calls more

theorem prints_printState (s : Session.Remote.State) : (printState s).Prints := by
  refine .bind (.print _) fun _ => .bind (.forM (fun _ => .print _) _) fun _ => ?_
  dsimp only
  split
  · refine .bind (.print _) fun _ => ?_
    split <;> exact .print _
  · split <;> exact .print _

def callsDue (a : SessionArguments) (files : Dict String) : List Call :=
  .sessionData :: ((if a.clear then [.clearSession] else []) ++
    if files.isEmpty then [] else [.uploadFiles files])

theorem meets_printState (s : Session.Remote.State) (c : Client) (w : World) :
    (printState s).Meets w fun r w' => Plays target [] c w.network r w'.network := by
  refine ((prints_printState s).meets w).imp fun r w' ⟨⟨_, ok⟩, _, network⟩ => ?_
  rw [ok, network]
  exact .done c w.network

theorem meets_upload {paths : List String} {found : Session.Target} {w : World}
    {files : Dict String} {s : Session.Remote.State}
    (readable : (Upload.collect paths).Meets w fun r _ => r = .ok files) (idle : s.IsIdle)
    (c : Client) {w' : World} (same : w'.disk = w.disk) :
    (do
      let files ← Upload.collect paths
      if files.isEmpty then printState s
      else do
        let uploaded ← conduct found c (begin s (.upload · files))
        printState uploaded.1).Meets w' fun r w'' =>
      Plays (some found) (if files.isEmpty then [] else [.uploadFiles files]) c w'.network r
        w''.network := by
  refine .followed ((Upload.looks_collect paths).meets readable same) ?_ ?_
  · rintro _ _ ⟨collected, rfl⟩
    cases collected
    split
    · exact meets_printState s c _
    · exact meets_conduct (Session.Remote.opens_upload files) idle fun s c w _ _ =>
        meets_printState s c w
  · rintro _ _ ⟨failed, -⟩
    cases failed

theorem meets_run {a : SessionArguments} {w : World} {files : Dict String}
    (usable : Client.ofUrl a.remote.server = .ok c)
    (readable : (Upload.collect a.paths).Meets w fun r _ => r = .ok files) :
    (run a).Meets w fun r w' =>
      Plays (some (Upload.target a.remote)) (callsDue a files) c w.network r w'.network := by
  unfold run
  refine .bind_lift (fun client usable' => ?_) fun e refused => ?_
  · obtain rfl : client = c := Except.ok.inj (usable'.symm.trans usable)
    simp only [Session.Remote.mount, Option.isNone_some, Bool.false_eq_true, if_false,
      Session.Remote.fetch, Session.Remote.clear, Session.Remote.upload, pure_bind]
    refine meets_conduct Session.Remote.opens_fetch rfl fun s c w' idle same => ?_
    dsimp only
    split
    · refine meets_conduct Session.Remote.opens_clear idle fun s c w'' idle same' => ?_
      exact .bind_modify (meets_upload readable idle c (same'.trans same))
    · exact meets_upload readable idle c same
  · rw [usable] at refused
    cases refused

end SessionCommand

namespace CheckCommand

def request (a : CheckArguments) (files : Dict String) : Server.VerifyRequest :=
  { address := a.remote.address.text
    chain := a.remote.chainId
    files
    compilerVersion := a.compilerVersion
    contractName := a.contractName }

theorem prints_printResponse (r : Server.VerifyResponse) : (printResponse r).Prints :=
  .bind (.forM_option (fun _ => .print _) _) fun _ => .forM (fun _ => .print _) _

theorem meets_conduct {s : Session.Stateless.State} {round : Session.Stateless.Round}
    (wanted : s.gate.isCurrent round.generation = true) (c : Client) (w : World) :
    (do
      let ended := Session.Stateless.finishLive c (← get).network (s, .waiting round)
      modify fun w => { w with network := ended.network }
      Upload.requireApplied ended.outcome ended.state.failure
      ended.state.response.forM printResponse : Action Unit).Meets w fun r w' =>
        Plays none [round.call] c w.network r w'.network := by
  obtain ⟨reply, talks, ends⟩ := Session.Stateless.finishLive_waiting wanted c w.network
  refine .bind_get (.bind_modify ?_)
  generalize Session.Stateless.finishLive c w.network (s, .waiting round) = ended at *
  cases refused : Answered.error? ⟨round.call, reply⟩ with
  | some error =>
    rw [refused] at ends
    rw [ends.1, ends.2]
    exact .failed talks refused
  | none =>
    rw [refused] at ends
    rw [ends]
    have printed := (Prints.forM_option prints_printResponse ended.state.response).meets
      { w with network := ended.network }
    refine printed.imp fun r w' ⟨⟨_, ok⟩, _, network⟩ => ?_
    rw [ok, network]
    exact .answered talks refused rfl (.done ended.client ended.network)

theorem meets_run {a : CheckArguments} {w : World} {files : Dict String}
    (usable : Client.ofUrl a.remote.server = .ok c)
    (readable : (Upload.collect a.paths).Meets w fun r _ => r = .ok files)
    (some_file : files.isEmpty = false) :
    (run a).Meets w fun r w' =>
      Plays none [.verify (request a files)] c w.network r w'.network := by
  have complete : Session.Stateless.Inputs.request?
      ⟨some (Upload.target a.remote), files, a.compilerVersion, a.contractName⟩ =
      some (request a files) := by
    simp only [Session.Stateless.Inputs.request?, some_file]
    rfl
  unfold run
  refine .followed ((Upload.looks_collect a.paths).meets readable rfl) ?_ ?_
  · rintro _ w ⟨collected, rfl⟩
    cases collected
    simp only [some_file, Bool.false_eq_true, if_false]
    refine .bind_lift (fun client usable' => ?_) fun e refused => ?_
    · obtain rfl : client = c := Except.ok.inj (usable'.symm.trans usable)
      rw [Session.Stateless.update_withOptions complete]
      exact meets_conduct rfl client w
    · rw [usable] at refused
      cases refused
  · rintro _ _ ⟨failed, -⟩
    cases failed

end CheckCommand

theorem SessionCommand.distinct_callsDue (a : SessionArguments) (files : Dict String) :
    (callsDue a files).Nodup := by
  rw [callsDue]
  split <;> split <;> simp

theorem SessionCommand.isCheck_callsDue (a : SessionArguments) (files : Dict String) :
    ∀ call ∈ callsDue a files, CallCourse.isCheck call = false := by
  rw [callsDue]
  split <;> split <;> simp [CallCourse.isCheck]

/-- A session command asks for the session, clears it if it is to, and sends the files if there are
any, with the checks behind them. It succeeds exactly if each of these calls does, whatever becomes
of the checks, and it fails with the error of the last call that it made, the first one that failed.
A check command with files makes one call, and succeeds or fails with it. Each call that reaches the
server is one request. -/
theorem run_calls_in_order :
    (∀ (a : SessionArguments) (w : World) (c : Client) (files : Dict String),
      Client.ofUrl a.remote.server = .ok c →
      (Upload.collect a.paths).Meets w (fun r _ => r = .ok files) →
      let due := SessionCommand.callsDue a files
      let ended := (Command.session a).run w
      ∃ talk c', c.Talks w.network talk c' ended.2.network ∧
        CallCourse (some (Upload.target a.remote)) due talk ended.1 ∧
        (ended.1 = .ok () ↔
          ∀ call ∈ due, ∃ reply, ⟨call, reply⟩ ∈ talk ∧ Answered.error? ⟨call, reply⟩ = none) ∧
        (∀ e, ended.1 = .error e → ∃ before last error,
          talk = before ++ [last] ∧ last.call ∈ due ∧ last.error? = some error ∧
          e.message = "[E056] Verification server request failed: " ++ error.message) ∧
        ((∀ x ∈ talk, c.Reaches w.network x.call) → ∃ requests,
          ended.2.network.requests = w.network.requests ++ requests ∧
          List.Forall₂ c.Asks talk requests)) ∧
    (∀ (a : CheckArguments) (w : World) (c : Client) (files : Dict String),
      Client.ofUrl a.remote.server = .ok c →
      (Upload.collect a.paths).Meets w (fun r _ => r = .ok files) → files.isEmpty = false →
      let call := Call.verify (CheckCommand.request a files)
      let ended := (Command.check a).run w
      ∃ reply c', c.Talks w.network [⟨call, reply⟩] c' ended.2.network ∧
        (ended.1 = .ok () ↔ Answered.error? ⟨call, reply⟩ = none) ∧
        (∀ error, Answered.error? ⟨call, reply⟩ = some error →
          ended.1 = .error (.round (.ofError error)) ∧
          (CommandError.round (.ofError error)).message =
            "[E056] Verification server request failed: " ++ error.message) ∧
        (c.Reaches w.network call → ∃ request,
          ended.2.network.requests = w.network.requests ++ [request] ∧
          c.Asks ⟨call, reply⟩ request)) := by
  constructor
  · intro a w c files usable readable due ended
    obtain ⟨talk, c', talks, course⟩ := SessionCommand.meets_run usable readable
    refine ⟨talk, c', talks, course, course.ok_iff (SessionCommand.distinct_callsDue a files)
      (SessionCommand.isCheck_callsDue a files), fun e failed => ?_, talks.requests⟩
    obtain ⟨before, last, error, split, mem, refused, rfl⟩ := course.last_of_error failed
    exact ⟨before, last, error, split, mem, refused, rfl⟩
  · intro a w c files usable readable some_file call ended
    obtain ⟨talk, c', talks, course⟩ := CheckCommand.meets_run usable readable some_file
    obtain ⟨reply, rfl, outcome⟩ := course.only fun _ => rfl
    refine ⟨reply, c', talks, ?_, fun error refused => ⟨?_, rfl⟩, fun reaches => ?_⟩
    · rcases outcome with ⟨accepted, ok⟩ | ⟨error, refused, failed⟩
      · exact iff_of_true ok accepted
      · exact iff_of_false (fun ok => nomatch ok.symm.trans failed) (by rw [refused]; nofun)
    · rcases outcome with ⟨accepted, ok⟩ | ⟨error', refused', failed⟩
      · rw [accepted] at refused
        cases refused
      · cases refused.symm.trans refused'
        exact failed
    · obtain ⟨requests, asked, told⟩ := talks.requests (by simpa using reaches)
      cases told with
      | cons asks none => cases none; exact ⟨_, asked, asks⟩

def sampleServer : Url :=
  { scheme := "https".toList, host := some "server".toList, path := .segments [[]] }

def sampleRemote : Remote :=
  ⟨sampleServer, none, "296", ⟨"0x5b38da6a701c568545dcfcb03fcb875f56beddc4"⟩⟩

def sampleFiles : Dict String := Dict.ofList [("Token.sol", "contract Token \x7b\x7d")]

def sampleInspection : Call :=
  .verifyChecked [Session.Remote.checkRequest (Upload.target sampleRemote) "0x1"]

def sampleWorld : World where
  disk := { entries := [(["Token.sol".toList], .text "contract Token \x7b\x7d")] }
  network :=
    { reactions := [.answer 200 "\x7b\x7d" none true, .answer 200 "cleared" none true,
        .answer 200 "\x7b\"contracts\": [\x7b\"verificationId\": \"0x1\"\x7d]\x7d" none true,
        .answer 503 "down" none true] }
  home := none
  now := default

theorem meets_collect_sample :
    (Upload.collect ["Token.sol"]).Meets sampleWorld fun r _ => r = .ok sampleFiles := by
  have found : sampleWorld.disk.stat "Token.sol" =
      .ok (["Token.sol".toList], .text "contract Token \x7b\x7d") :=
    Disk.stat_eq_ok_iff.2 (Disk.find_of_names
      (show _ ∧ _ ∧ _ = ["Token.sol".toList] by decide +kernel) (.file (by decide) rfl rfl))
  exact Upload.collect_file found rfl

theorem calls_sample {talk : List Answered} {c' : Client} {n' : Http.Network}
    {result : Except CommandError Unit}
    (talks : Client.Talks ⟨sampleServer, []⟩ sampleWorld.network talk c' n')
    (course : CallCourse (some (Upload.target sampleRemote))
      [.sessionData, .clearSession, .uploadFiles sampleFiles] talk result) :
    talk.map (·.call) =
        [.sessionData, .clearSession, .uploadFiles sampleFiles, sampleInspection] ∧
      (∃ last, talk.getLast? = some last ∧ last.error?.isSome) ∧ result = .ok () := by
  let target := some (Upload.target sampleRemote)
  let c : Client := ⟨sampleServer, []⟩
  let n := sampleWorld.network
  have talks : c.Talks n talk c' n' := talks
  let first := c.send n .sessionData
  let second := first.2.1.send first.2.2 .clearSession
  let third := second.2.1.send second.2.2 (.uploadFiles sampleFiles)
  let fourth := third.2.1.send third.2.2 sampleInspection
  have fetched : Answered.error? ⟨.sessionData, first.1⟩ = none := by decide +kernel
  have cleared : Answered.error? ⟨.clearSession, second.1⟩ = none := by decide +kernel
  have sent : Answered.error? ⟨.uploadFiles sampleFiles, third.1⟩ = none := by decide +kernel
  have due : followUps target ⟨.uploadFiles sampleFiles, third.1⟩ = [sampleInspection] := by
    decide +kernel
  have failing : (Answered.error? ⟨sampleInspection, fourth.1⟩).isSome := by decide +kernel
  -- what the server does has been worked out; from here on its replies are any replies
  clear_value c n
  obtain ⟨_, rfl, talks₁, course₁⟩ := course.of_accepted_alone talks fetched rfl
  obtain ⟨_, rfl, talks₂, course₂⟩ := course₁.of_accepted_alone talks₁ cleared rfl
  obtain ⟨_, _, _, _, rfl, calls, checks, -, course₃⟩ := course₂.of_accepted talks₂ sent
  rw [due] at calls
  obtain ⟨last, rfl, call⟩ := List.map_eq_singleton_iff.1 calls
  obtain ⟨rfl, ok⟩ := course₃.of_nothing
  refine ⟨by simp [call], ⟨last, rfl, ?_⟩, ok⟩
  have reply := checks.reply_eq
  rw [call] at reply
  obtain ⟨_, _⟩ := last
  subst call reply
  exact failing

theorem run_calls_in_order_sample :
    let session := (Command.session ⟨sampleRemote, true, ["Token.sol"]⟩).run sampleWorld
    let check := (Command.check ⟨sampleRemote, none, none, ["Token.sol"]⟩).run sampleWorld
    (∃ talk c' last,
      Client.Talks ⟨sampleServer, []⟩ sampleWorld.network talk c' session.2.network ∧
      talk.map (·.call) =
        [.sessionData, .clearSession, .uploadFiles sampleFiles, sampleInspection] ∧
      talk.getLast? = some last ∧ last.error?.isSome ∧ session.1 = .ok ()) ∧
      ∃ reply c', Client.Talks ⟨sampleServer, []⟩ sampleWorld.network
        [⟨.verify { address := sampleRemote.address.text, chain := "296", files := sampleFiles },
          reply⟩] c' check.2.network := by
  intro session check
  have usable : Client.ofUrl sampleServer = .ok ⟨sampleServer, []⟩ := rfl
  constructor
  · obtain ⟨talk, c', talks, course, -⟩ := run_calls_in_order.1
      ⟨sampleRemote, true, ["Token.sol"]⟩ sampleWorld _ sampleFiles usable meets_collect_sample
    obtain ⟨calls, ⟨last, isLast, failing⟩, ok⟩ := calls_sample talks course
    exact ⟨talk, c', last, talks, calls, isLast, failing, ok⟩
  · obtain ⟨reply, c', talks, -⟩ := run_calls_in_order.2
      ⟨sampleRemote, none, none, ["Token.sol"]⟩ sampleWorld _ sampleFiles usable
      meets_collect_sample rfl
    exact ⟨reply, c', talks⟩

end SourceMatch.CommandLine
