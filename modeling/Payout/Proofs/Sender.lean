import Payout.Proofs.Bytes
import Payout.Proofs.Submission
import Payout.Sender

/-!
# Runs of the program

A run ends in one of four ways: it was asked for something else, its options are rejected, no node accepts a
batch, or the batch is followed. What a run does to the outside is read off from the way in which it ends: whom
it calls, what it submits, what it prints and how it exits.
-/
namespace Payout.Sender
open Options (Config parse)
open StatusStream (ReachesBlock ReachesFinality)

/-- What connecting leads to with a configuration. -/
def World.connecting (w : World) (c : Config) : Connecting Client :=
  Connection.connect c.node c.connectionRetries w.outcome

/-- The seed of the sender is malformed, or the receiver is neither an address nor a seed. -/
def Unreadable (c : Config) : Prop :=
  (∃ e, Key.KeyPair.ofSeed c.senderSeed = .error e) ∨
    (Address.Ss58.decode c.recipient.toList = none ∧ ∃ e, Key.KeyPair.ofSeed c.recipient = .error e)

/-- With a configuration, an extrinsic is sent to a node, which may still refuse it. -/
def Sends (w : World) (c : Config) (x : Extrinsic) : Prop :=
  ∃ sender recipient client, Key.KeyPair.ofSeed c.senderSeed = .ok sender ∧
    accountOfText c.recipient = .ok recipient ∧ (w.connecting c).result = .ok client ∧
    client.extrinsic ⟨sender.account, w.sign sender⟩ (batchOf c recipient).payload .none = .ok x

/-- These are the extrinsics that are sent to a node with a configuration: one, or none. -/
def Logs (w : World) (c : Config) (submitted : List Extrinsic) : Prop :=
  (submitted = [] ∧ ∀ x, ¬ Sends w c x) ∨ ∃ x, submitted = [x] ∧ Sends w c x

/-- With a configuration, an extrinsic gets to a node, and the stream reports on it. -/
def Submits (w : World) (c : Config) (x : Extrinsic) (stream : StatusStream) : Prop :=
  ∃ sender recipient client, Key.KeyPair.ofSeed c.senderSeed = .ok sender ∧
    accountOfText c.recipient = .ok recipient ∧ (w.connecting c).result = .ok client ∧
    client.submit ⟨sender.account, w.sign sender⟩ (batchOf c recipient) w.reception = .ok (x, stream)

/-- How the following of a batch ends, depending on what is reported about it. -/
inductive Follows (c : Config) (items : List Item) (steps : List Step) (x : Extrinsic) : Run → Prop
  | missed {complaint : Option String} {warnings : List Warning} (h : ∀ info, ¬ ReachesBlock items info) :
    Follows c items steps x ⟨1, "", complaint, steps, warnings, [x]⟩
  | reached {info : TxInfo} {warnings : List Warning} (h : ReachesBlock items info)
      (hfinal : c.waitFor = .finalized → ReachesFinality items) :
    Follows c items steps x ⟨0, includedLine info, none, steps, warnings, [x]⟩
  | unfinished {info : TxInfo} {complaint : Option String} {warnings : List Warning}
      (h : ReachesBlock items info) (hwait : c.waitFor = .finalized) (hfinal : ¬ ReachesFinality items) :
    Follows c items steps x ⟨1, includedLine info, complaint, steps, warnings, [x]⟩

/-- How a run ends. -/
inductive Ends (w : World) (arguments : List String) : Run → Prop
  | asked {q : Options.Request} (h : parse arguments = .error (.asked q)) :
    Ends w arguments ⟨0, q.text, none, [], [], []⟩
  | rejected {e : Options.Error} (h : parse arguments = .error e) (hasked : ∀ q, e ≠ .asked q) :
    Ends w arguments ⟨2, "", some e.message, [], [], []⟩
  | unsent {c : Config} {steps : List Step} {submitted : List Extrinsic} {e : Failure}
      (h : parse arguments = .ok c) (hcalls : (∃ address, .attempt address ∈ steps) ↔ ¬ Unreadable c)
      (hlogs : Logs w c submitted) (hunsent : ∀ x stream, ¬ Submits w c x stream) :
    Ends w arguments (.failed steps submitted e)
  | followed {c : Config} {x : Extrinsic} {stream : StatusStream} {r : Run} (h : parse arguments = .ok c)
      (hsubmits : Submits w c x stream) (hfollows : Follows c stream.items (w.connecting c).steps x r) :
    Ends w arguments r

theorem accountOfText_eq_error_iff {text : String} :
    (∃ e, accountOfText text = .error e) ↔
      Address.Ss58.decode text.toList = none ∧ ∃ e, Key.KeyPair.ofSeed text = .error e := by
  unfold accountOfText
  cases Address.Ss58.decode text.toList with
  | some account => simp
  | none => cases Key.KeyPair.ofSeed text <;> simp [Except.map]

/-- The accounts of a configuration can be read when there is a key of the sender and an account of the
receiver. -/
theorem not_unreadable {c : Config} {sender : Key.KeyPair} {recipient : AccountId}
    (hsender : Key.KeyPair.ofSeed c.senderSeed = .ok sender)
    (hrecipient : accountOfText c.recipient = .ok recipient) : ¬ Unreadable c := by
  intro h
  rcases h with ⟨e, he⟩ | hno
  · rw [hsender] at he
    cases he
  · obtain ⟨e, he⟩ := accountOfText_eq_error_iff.mpr hno
    rw [hrecipient] at he
    cases he

/-- Connecting starts with an attempt. -/
theorem World.attempt_mem_connecting (w : World) (c : Config) :
    .attempt (Address.withProtocol c.node) ∈ (w.connecting c).steps := by
  unfold connecting Connection.connect
  cases c.connectionRetries with
  | zero => exact List.mem_cons_self
  | succ retries =>
    unfold Connection.attemptFrom
    split
    · exact List.mem_cons_self
    · exact List.mem_cons_self

section Submits

variable {w : World} {c : Config} {x y : Extrinsic} {s t : StatusStream} {sender : Key.KeyPair}
  {recipient : AccountId}

theorem sends_iff (hsender : Key.KeyPair.ofSeed c.senderSeed = .ok sender)
    (hrecipient : accountOfText c.recipient = .ok recipient) :
    Sends w c x ↔ ∃ client, (w.connecting c).result = .ok client ∧
      client.extrinsic ⟨sender.account, w.sign sender⟩ (batchOf c recipient).payload .none = .ok x := by
  simp [Sends, hsender, hrecipient]

theorem submits_iff (hsender : Key.KeyPair.ofSeed c.senderSeed = .ok sender)
    (hrecipient : accountOfText c.recipient = .ok recipient) :
    Submits w c x s ↔ ∃ client, (w.connecting c).result = .ok client ∧
      client.submit ⟨sender.account, w.sign sender⟩ (batchOf c recipient) w.reception = .ok (x, s) := by
  simp [Submits, hsender, hrecipient]

theorem Sends.unique (h : Sends w c x) (h' : Sends w c y) : x = y := by
  obtain ⟨sender, recipient, client, hsender, hrecipient, hclient, hsigned⟩ := h
  obtain ⟨other, hother, hsigned'⟩ := (sends_iff hsender hrecipient).mp h'
  obtain rfl := Except.ok.inj (hclient.symm.trans hother)
  exact Except.ok.inj (hsigned.symm.trans hsigned')

theorem Sends.not_unreadable (h : Sends w c x) : ¬ Unreadable c := by
  obtain ⟨sender, recipient, client, hsender, hrecipient, -⟩ := h
  exact Sender.not_unreadable hsender hrecipient

/-- What is sent is the batch of the configuration. -/
theorem Sends.call (h : Sends w c x) :
    ∃ recipient client, accountOfText c.recipient = .ok recipient ∧
      (w.connecting c).result = .ok client ∧
      (Batch.repeated ⟨recipient, c.amount, c.transferCall⟩ c.batchSize c.batchMode).payload.encode
        client.metadata = .ok x.call := by
  obtain ⟨sender, recipient, client, -, hrecipient, hclient, hextrinsic⟩ := h
  obtain ⟨nonce, -, h⟩ := Outcome.bind_eq_ok_iff.mp hextrinsic
  obtain ⟨-, -, h⟩ := Outcome.bind_eq_ok_iff.mp h
  obtain ⟨call, hcall, h⟩ := Outcome.bind_eq_ok_iff.mp h
  obtain rfl := Except.ok.inj h
  exact ⟨recipient, client, hrecipient, hclient, Outcome.mapError_eq_ok_iff.mp hcall⟩

theorem Submits.sends (h : Submits w c x s) : Sends w c x := by
  obtain ⟨sender, recipient, client, hsender, hrecipient, hclient, hsubmit⟩ := h
  exact ⟨sender, recipient, client, hsender, hrecipient, hclient, (Client.submitPayload_eq_ok hsubmit).1⟩

theorem Submits.unique (h : Submits w c x s) (h' : Submits w c y t) : x = y ∧ s = t := by
  obtain ⟨sender, recipient, client, hsender, hrecipient, hclient, hsubmit⟩ := h
  obtain ⟨other, hother, hsubmit'⟩ := (submits_iff hsender hrecipient).mp h'
  obtain rfl := Except.ok.inj (hclient.symm.trans hother)
  exact Prod.mk.inj (Except.ok.inj (hsubmit.symm.trans hsubmit'))

/-- The stream of a submission remembers nothing yet. -/
theorem Submits.fresh (h : Submits w c x s) : s.finalized = none := by
  obtain ⟨sender, recipient, client, -, -, -, hsubmit⟩ := h
  obtain ⟨-, rfl⟩ := Client.submitPayload_eq_ok hsubmit
  rfl

/-- A submission is a log of what is sent. -/
theorem submission_logs (hsender : Key.KeyPair.ofSeed c.senderSeed = .ok sender)
    (hrecipient : accountOfText c.recipient = .ok recipient) {client : Client}
    (hclient : (w.connecting c).result = .ok client) :
    Logs w c (client.submission ⟨sender.account, w.sign sender⟩ (batchOf c recipient).payload .none
      w.reception).sent := by
  rw [Client.submission_sent]
  cases hsigned : client.extrinsic ⟨sender.account, w.sign sender⟩ (batchOf c recipient).payload .none with
  | error e =>
    refine .inl ⟨rfl, fun x hx => ?_⟩
    obtain ⟨other, hother, hx⟩ := (sends_iff hsender hrecipient).mp hx
    obtain rfl := Except.ok.inj (hclient.symm.trans hother)
    rw [hsigned] at hx
    cases hx
  | ok x => exact .inr ⟨x, rfl, sender, recipient, client, hsender, hrecipient, hclient, hsigned⟩

theorem Logs.eq_singleton_iff {submitted : List Extrinsic} (h : Logs w c submitted) :
    submitted = [x] ↔ Sends w c x := by
  rcases h with ⟨rfl, hnone⟩ | ⟨y, rfl, hy⟩
  · exact iff_of_false (List.cons_ne_nil _ _).symm (hnone x)
  · constructor
    · intro h
      obtain rfl := List.singleton_inj.mp h
      exact hy
    · intro hx
      rw [hx.unique hy]

end Submits

section Following

variable {c : Config} {items : List Item} {steps : List Step} {x : Extrinsic} {r : Run}

theorem follow_follows {s : StatusStream} (hs : s.finalized = none) :
    Follows c s.items steps x (follow steps [x] s c) := by
  have hfirst : s.wait .inBlock = StatusStream.await .inBlock s.items := by
    simp only [StatusStream.wait, hs]
  cases hanswer : (s.wait .inBlock).answer with
  | error e =>
    have hnone : ∀ info, ¬ ReachesBlock s.items info := by
      intro info hinfo
      rw [hfirst, StatusStream.await_inBlock_eq_ok_iff.mpr hinfo] at hanswer
      cases hanswer
    simp only [follow, hanswer]
    exact .missed hnone
  | ok info =>
    have hblock : ReachesBlock s.items info := by
      rw [hfirst] at hanswer
      exact StatusStream.await_inBlock_eq_ok_iff.mp hanswer
    have hfinal : ReachesFinality s.items ↔
        ∃ final, ((s.waitFor .inBlock).2.wait .finalized).answer = .ok final := by
      rw [StatusStream.wait_finalized_after_inBlock hs hanswer]
      exact StatusStream.await_finalized_eq_ok_iff.symm
    cases hwait : c.waitFor with
    | inBlock =>
      simp only [follow, hanswer, hwait]
      exact .reached hblock (by simp [hwait])
    | finalized =>
      cases hlast : ((s.waitFor .inBlock).2.wait .finalized).answer with
      | ok final =>
        simp only [follow, hanswer, hwait, hlast]
        exact .reached hblock fun _ => hfinal.mpr ⟨final, hlast⟩
      | error e =>
        simp only [follow, hanswer, hwait, hlast]
        refine .unfinished hblock hwait fun h => ?_
        obtain ⟨final, hok⟩ := hfinal.mp h
        rw [hlast] at hok
        cases hok

theorem Follows.steps_eq (h : Follows c items steps x r) : r.steps = steps := by
  cases h <;> rfl

theorem Follows.submitted_eq (h : Follows c items steps x r) : r.submitted = [x] := by
  cases h <;> rfl

theorem includedLine_ne_empty (info : TxInfo) : includedLine info ≠ "" := by
  intro h
  have hlength := congrArg String.length h
  simp [includedLine] at hlength

theorem includedLine_eq_iff {info : TxInfo} {block : BlockHash} :
    includedLine info = "included in " ++ block.hex ++ "\n" ↔ info.blockHash = block := by
  constructor
  · intro h
    have htext := congrArg String.toList h
    refine Bytes32.hex_injective (String.toList_injective ?_)
    simpa [includedLine] using htext
  · intro h
    subst h
    rfl

/-- The items of a stream tell of at most one block as the first. -/
theorem reachesBlock_unique {info other : TxInfo} (h : ReachesBlock items info)
    (h' : ReachesBlock items other) : info = other := by
  rw [← StatusStream.await_inBlock_eq_ok_iff] at h h'
  exact Except.ok.inj (h.symm.trans h')

/-- The line is printed as soon as a block is reached, whatever is reported afterwards. -/
theorem Follows.output_eq_iff (h : Follows c items steps x r) {block : BlockHash} :
    r.output = "included in " ++ block.hex ++ "\n" ↔
      ∃ info, ReachesBlock items info ∧ info.blockHash = block := by
  have hline {info : TxInfo} (hinfo : ReachesBlock items info) :
      includedLine info = "included in " ++ block.hex ++ "\n" ↔
        ∃ other, ReachesBlock items other ∧ other.blockHash = block := by
    rw [includedLine_eq_iff]
    constructor
    · intro hblock
      exact ⟨info, hinfo, hblock⟩
    · intro h
      obtain ⟨other, hother, hblock⟩ := h
      rw [reachesBlock_unique hinfo hother, hblock]
  cases h with
  | missed h =>
    constructor
    · intro hempty
      exact absurd hempty.symm (includedLine_ne_empty ⟨block, block⟩)
    · intro h
      obtain ⟨info, hinfo, -⟩ := h
      exact absurd hinfo (h info)
  | reached h _ => exact hline h
  | unfinished h _ _ => exact hline h

theorem Follows.output_cases (h : Follows c items steps x r) :
    r.output = "" ∨ ∃ block : BlockHash, r.output = "included in " ++ block.hex ++ "\n" := by
  cases h with
  | missed _ => exact .inl rfl
  | reached _ _ => exact .inr ⟨_, rfl⟩
  | unfinished _ _ _ => exact .inr ⟨_, rfl⟩

theorem Follows.exitCode_eq_zero_iff (h : Follows c items steps x r) :
    r.exitCode = 0 ↔ (∃ block : BlockHash, r.output = "included in " ++ block.hex ++ "\n") ∧
      (c.waitFor = .finalized → ReachesFinality items) := by
  have hfailed : ¬ (1 : UInt32) = 0 := by decide
  cases h with
  | missed h =>
    refine iff_of_false hfailed ?_
    intro h
    obtain ⟨⟨block, hempty⟩, -⟩ := h
    exact includedLine_ne_empty ⟨block, block⟩ hempty.symm
  | reached h hfinal => exact iff_of_true rfl ⟨⟨_, rfl⟩, hfinal⟩
  | unfinished h hwait hfinal =>
    refine iff_of_false hfailed ?_
    intro h
    obtain ⟨-, h⟩ := h
    exact hfinal (h hwait)

end Following

section Ending

variable {w : World} {arguments : List String} {c : Config}

theorem send_ends {sender : Key.KeyPair} {recipient : AccountId} (hparse : parse arguments = .ok c)
    (hsender : Key.KeyPair.ofSeed c.senderSeed = .ok sender)
    (hrecipient : accountOfText c.recipient = .ok recipient) :
    Ends w arguments (send w c sender recipient) := by
  have hcalls : (∃ address, .attempt address ∈ (w.connecting c).steps) ↔ ¬ Unreadable c :=
    iff_of_true ⟨_, w.attempt_mem_connecting c⟩ (not_unreadable hsender hrecipient)
  have hsubmits (x : Extrinsic) (stream : StatusStream) : Submits w c x stream ↔ _ :=
    submits_iff hsender hrecipient
  have hconnecting : Connection.connect c.node c.connectionRetries w.outcome = w.connecting c := rfl
  simp only [send, hconnecting]
  cases hclient : (w.connecting c).result with
  | error e =>
    have hnone : ∀ x, ¬ Sends w c x := fun x => by simp [sends_iff hsender hrecipient, hclient]
    exact .unsent hparse hcalls (.inl ⟨rfl, hnone⟩) fun x stream h => hnone x h.sends
  | ok client =>
    have hlogs := submission_logs hsender hrecipient hclient
    simp only
    cases hsubmit : (client.submission ⟨sender.account, w.sign sender⟩ (batchOf c recipient).payload .none
        w.reception).result with
    | error e =>
      refine .unsent hparse hcalls hlogs fun x stream => ?_
      simp [hsubmits, hclient, Client.submit, Client.submitPayload, hsubmit]
    | ok accepted =>
      have h : Submits w c accepted.1 accepted.2 := (hsubmits _ _).mpr ⟨client, hclient, hsubmit⟩
      simp only [hlogs.eq_singleton_iff.mpr h.sends]
      exact .followed hparse h (follow_follows h.fresh)

/-- Nobody is called, and nothing sent, while an account cannot be read. -/
theorem ends_of_unreadable {e : Failure} (hparse : parse arguments = .ok c) (h : Unreadable c) :
    Ends w arguments (.failed [] [] e) := by
  have hnone : ∀ x, ¬ Sends w c x := fun x hsends => hsends.not_unreadable h
  refine .unsent hparse (iff_of_false ?_ (not_not_intro h)) (.inl ⟨rfl, hnone⟩) fun x stream hsubmits => ?_
  · intro h
    obtain ⟨address, haddress⟩ := h
    cases haddress
  · exact hnone x hsubmits.sends

/-- Every run ends in one of the four ways. -/
theorem run_ends (w : World) (arguments : List String) : Ends w arguments (run w arguments) := by
  unfold run
  cases hparse : parse arguments with
  | error e =>
    cases e with
    | asked q => exact .asked hparse
    | _ => exact .rejected hparse (by simp)
  | ok c =>
    simp only [runWith]
    cases hsender : Key.KeyPair.ofSeed c.senderSeed with
    | error e => exact ends_of_unreadable hparse (.inl ⟨e, hsender⟩)
    | ok sender =>
      cases hrecipient : accountOfText c.recipient with
      | error e =>
        exact ends_of_unreadable hparse (.inr (accountOfText_eq_error_iff.mp ⟨e, hrecipient⟩))
      | ok recipient => exact send_ends hparse hsender hrecipient

/-- Without accepted options nobody is called and nothing is sent, and the run succeeds when it was asked for
something. -/
theorem Ends.of_refused {r : Run} {e : Options.Error} (h : Ends w arguments r) (he : parse arguments = .error e) :
    r.steps = [] ∧ r.submitted = [] ∧ (r.exitCode = 0 ↔ ∃ q, e = .asked q) := by
  cases h with
  | asked h =>
    obtain rfl := Except.error.inj (he.symm.trans h)
    exact ⟨rfl, rfl, iff_of_true rfl ⟨_, rfl⟩⟩
  | rejected h hasked =>
    obtain rfl := Except.error.inj (he.symm.trans h)
    refine ⟨rfl, rfl, iff_of_false (show ¬ (2 : UInt32) = 0 by decide) ?_⟩
    intro h
    obtain ⟨q, hq⟩ := h
    exact hasked q hq
  | unsent h _ _ _ =>
    rw [he] at h
    cases h
  | followed h _ _ =>
    rw [he] at h
    cases h

/-- With accepted options no node accepts a batch and nothing is printed, or the run follows the batch. -/
theorem Ends.of_accepted {r : Run} (h : Ends w arguments r) (hparse : parse arguments = .ok c) :
    (∃ steps submitted e, r = .failed steps submitted e ∧
        ((∃ address, .attempt address ∈ steps) ↔ ¬ Unreadable c) ∧ Logs w c submitted ∧
        ∀ x stream, ¬ Submits w c x stream) ∨
      ∃ x stream, Submits w c x stream ∧ Follows c stream.items (w.connecting c).steps x r := by
  cases h with
  | asked h =>
    rw [hparse] at h
    cases h
  | rejected h _ =>
    rw [hparse] at h
    cases h
  | unsent h hcalls hlogs hunsent =>
    obtain rfl := Except.ok.inj (hparse.symm.trans h)
    exact .inl ⟨_, _, _, rfl, hcalls, hlogs, hunsent⟩
  | followed h hsubmits hfollows =>
    obtain rfl := Except.ok.inj (hparse.symm.trans h)
    exact .inr ⟨_, _, hsubmits, hfollows⟩

/-- With accepted options a run logs what is sent. -/
theorem Ends.logs {r : Run} (h : Ends w arguments r) (hparse : parse arguments = .ok c) :
    Logs w c r.submitted := by
  rcases h.of_accepted hparse with ⟨steps, submitted, e, rfl, -, hlogs, -⟩ | ⟨x, stream, hsubmits, hfollows⟩
  · exact hlogs
  · exact .inr ⟨x, hfollows.submitted_eq, hsubmits.sends⟩

end Ending

/-- What a run with some arguments does to the outside. -/
structure Run.Faithful (w : World) (arguments : List String) (r : Run) : Prop where
  /-- Nobody is called when the options are not accepted or an account cannot be read, and only then. -/
  uncalled : (∀ address, .attempt address ∉ r.steps) ↔
    (∃ e, parse arguments = .error e) ∨ ∃ c, parse arguments = .ok c ∧ Unreadable c
  /-- At most one extrinsic is sent to a node, and its call is the batch that was asked for. This includes an
  extrinsic that the node refuses. -/
  submitted : r.submitted = [] ∨ ∃ c x recipient client, parse arguments = .ok c ∧ r.submitted = [x] ∧
    accountOfText c.recipient = .ok recipient ∧ (w.connecting c).result = .ok client ∧
    (Batch.repeated ⟨recipient, c.amount, c.transferCall⟩ c.batchSize c.batchMode).payload.encode
      client.metadata = .ok x.call
  /-- What is sent is what is recorded. -/
  sent : ∀ c, parse arguments = .ok c → ∀ x, r.submitted = [x] ↔ Sends w c x
  /-- An extrinsic that a node accepts is the one that was sent. -/
  accepted : ∀ c x stream, parse arguments = .ok c → Submits w c x stream → r.submitted = [x]
  /-- The only output is the line that names the first block that is reached. -/
  output : ∀ c, parse arguments = .ok c →
    (r.output = "" ∨ ∃ block : BlockHash, r.output = "included in " ++ block.hex ++ "\n") ∧
      ∀ block : BlockHash, r.output = "included in " ++ block.hex ++ "\n" ↔
        ∃ x stream info, r.submitted = [x] ∧ Submits w c x stream ∧ ReachesBlock stream.items info ∧
          info.blockHash = block
  /-- The run succeeds when the line is printed and, if that was asked for, the block becomes final. -/
  exitCode : ∀ c, parse arguments = .ok c →
    (r.exitCode = 0 ↔ (∃ block : BlockHash, r.output = "included in " ++ block.hex ++ "\n") ∧
      (c.waitFor = .finalized → ∃ x stream, Submits w c x stream ∧ ReachesFinality stream.items))
  /-- Without accepted options it succeeds when help or the version was asked for. -/
  refused : ∀ e, parse arguments = .error e → (r.exitCode = 0 ↔ ∃ q, e = .asked q)

section Faithful

variable {w : World} {arguments : List String} {r : Run}

theorem Ends.uncalled (h : Ends w arguments r) : (∀ address, .attempt address ∉ r.steps) ↔
    (∃ e, parse arguments = .error e) ∨ ∃ c, parse arguments = .ok c ∧ Unreadable c := by
  cases hparse : parse arguments with
  | error e =>
    rw [(h.of_refused hparse).1]
    exact iff_of_true (fun _ => List.not_mem_nil) (.inl ⟨e, rfl⟩)
  | ok c =>
    simp only [reduceCtorEq, exists_false, Except.ok.injEq, exists_eq_left', false_or]
    rcases h.of_accepted hparse with ⟨steps, submitted, e, rfl, hcalls, -⟩ | ⟨x, stream, hsubmits, hfollows⟩
    · rw [← not_exists, ← not_iff_not, not_not]
      exact hcalls
    · rw [hfollows.steps_eq]
      refine iff_of_false (fun hnone => ?_) hsubmits.sends.not_unreadable
      exact hnone _ (w.attempt_mem_connecting c)

theorem Ends.submitted (h : Ends w arguments r) :
    r.submitted = [] ∨ ∃ c x, parse arguments = .ok c ∧ r.submitted = [x] ∧ Sends w c x := by
  cases hparse : parse arguments with
  | error e => exact .inl (h.of_refused hparse).2.1
  | ok c =>
    rcases h.logs hparse with ⟨hnone, -⟩ | ⟨x, hx, hsends⟩
    · exact .inl hnone
    · exact .inr ⟨c, x, rfl, hx, hsends⟩

end Faithful

/-- Every run is faithful to its arguments, whatever it meets. -/
theorem run_faithful (w : World) (arguments : List String) : (run w arguments).Faithful w arguments where
  uncalled := (run_ends w arguments).uncalled
  submitted := by
    rcases (run_ends w arguments).submitted with hnone | ⟨c, x, hparse, hx, hsends⟩
    · exact .inl hnone
    · obtain ⟨recipient, client, hrecipient, hclient, hcall⟩ := hsends.call
      exact .inr ⟨c, x, recipient, client, hparse, hx, hrecipient, hclient, hcall⟩
  sent := fun c hparse x => ((run_ends w arguments).logs hparse).eq_singleton_iff
  accepted := fun c x stream hparse hsubmits =>
    ((run_ends w arguments).logs hparse).eq_singleton_iff.mpr hsubmits.sends
  output := fun c hparse => by
    rcases (run_ends w arguments).of_accepted hparse with
      ⟨steps, submitted, e, hrun, -, -, hunsent⟩ | ⟨x, s, hsubmits, h⟩
    · rw [hrun]
      refine ⟨.inl rfl, fun block => iff_of_false ?_ ?_⟩
      · intro hempty
        exact includedLine_ne_empty ⟨block, block⟩ hempty.symm
      · intro h
        obtain ⟨x, stream, -, -, hsubmits, -⟩ := h
        exact hunsent x stream hsubmits
    · refine ⟨h.output_cases, fun block => h.output_eq_iff.trans ?_⟩
      constructor
      · intro h
        obtain ⟨info, hinfo, hblock⟩ := h
        exact ⟨x, s, info, h.submitted_eq, hsubmits, hinfo, hblock⟩
      · intro h
        obtain ⟨y, t, info, -, hother, hinfo, hblock⟩ := h
        obtain ⟨-, rfl⟩ := hsubmits.unique hother
        exact ⟨info, hinfo, hblock⟩
  exitCode := fun c hparse => by
    rcases (run_ends w arguments).of_accepted hparse with
      ⟨steps, submitted, e, hrun, -, -, hunsent⟩ | ⟨x, s, hsubmits, h⟩
    · rw [hrun]
      refine iff_of_false (show ¬ (1 : UInt32) = 0 by decide) ?_
      intro h
      obtain ⟨⟨block, hempty⟩, -⟩ := h
      exact includedLine_ne_empty ⟨block, block⟩ hempty.symm
    · rw [h.exitCode_eq_zero_iff]
      refine and_congr_right fun _ => imp_congr_right fun _ => ?_
      constructor
      · intro hfinal
        exact ⟨x, s, hsubmits, hfinal⟩
      · intro h
        obtain ⟨y, t, hother, hfinal⟩ := h
        obtain ⟨-, rfl⟩ := hsubmits.unique hother
        exact hfinal
  refused := fun e he => ((run_ends w arguments).of_refused he).2.2

end Payout.Sender
