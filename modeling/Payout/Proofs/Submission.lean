import Payout.Proofs.CallData
import Payout.Proofs.Inclusion
import Payout.Proofs.Served
import Payout.Proofs.StatusStream.History
import Payout.Submission

/-!
# Success of a submission

A wait for a block that succeeds tells of a block that the node reported, that contains the extrinsic, and
whose events tell of no failure of it. This holds whatever was done with the stream before, and also when the
answer is remembered from an earlier wait.
-/
namespace Payout
open Inclusion (Places Records TellsOfFailure)
open Metadata (EventRecord Profile)

namespace Notification

variable {c : Client} {tx : TxHash} {n : Notification} {info : TxInfo}

private theorem block_of_confirm {block : BlockHash} (h : Inclusion.confirm c block tx = .ok info) :
    block = info.blockHash := by
  have hinfo : info = ⟨block, tx⟩ := (Inclusion.confirm_eq_ok_iff.mp h).1
  rw [hinfo]

/-- A report becomes a status of inclusion only when the inclusion is confirmed. -/
theorem confirmed_of_item {status : Status} (h : item c tx n = .ok status)
    (hs : status = .inBlock info ∨ status = .finalized info) :
    (n = .inBlock info.blockHash ∨ n = .finalized info.blockHash) ∧
      Inclusion.confirm c info.blockHash tx = .ok info := by
  cases n with
  | inBlock block =>
    obtain ⟨known, hknown, rfl⟩ := Outcome.map_eq_ok_iff.mp h
    obtain rfl : known = info := by simpa using hs
    obtain rfl := block_of_confirm hknown
    exact ⟨.inl rfl, hknown⟩
  | finalized block =>
    obtain ⟨known, hknown, rfl⟩ := Outcome.map_eq_ok_iff.mp h
    obtain rfl : known = info := by simpa using hs
    obtain rfl := block_of_confirm hknown
    exact ⟨.inr rfl, hknown⟩
  | unreadable => cases h
  | _ =>
    obtain rfl := Except.ok.inj h
    rcases hs with hs | hs <;> cases hs

end Notification

/-- The text in which a node serves the extrinsic. -/
def Extrinsic.served (x : Extrinsic) : String :=
  "0x" ++ Hex.text x.encode

/-- What is signed is sent, once. -/
theorem Client.submission_sent (c : Client) (signer : Signer) (p : Payload) (v : Validation) (reception : Reception) :
    (c.submission signer p v reception).sent = (c.extrinsic signer p v).toOption.toList := by
  unfold submission
  cases c.extrinsic signer p v with
  | error e => rfl
  | ok x =>
    simp only
    split <;> rfl

/-- The stream of a submission is that of the extrinsic that was sent. -/
theorem Client.submitPayload_eq_ok {c : Client} {signer : Signer} {p : Payload} {v : Validation}
    {reception : Reception} {x : Extrinsic} {stream : StatusStream}
    (h : c.submitPayload signer p v reception = .ok (x, stream)) :
    c.extrinsic signer p v = .ok x ∧ stream = .watch c x.hash reception.reports := by
  unfold submitPayload submission at h
  split at h
  · cases h
  · rename_i sent hsent
    split at h
    · cases h
    · obtain ⟨rfl, rfl⟩ := Prod.mk.inj (Except.ok.inj h)
      exact ⟨hsent, rfl⟩

/-- What a stream tells of a block was reported by the node, and confirmed. -/
theorem StatusStream.confirmed_of_answer {c : Client} {tx : TxHash} {reports : List Notification}
    {ops : List Operation} {e : Event} {target : Target} {info : TxInfo}
    (he : e ∈ ((watch c tx reports).run ops).events) (hop : e.operation = .waitFor target)
    (ht : target ≠ .submitted) (hinfo : e.answer = .info (.ok info)) :
    (.inBlock info.blockHash ∈ Notification.upToLast reports ∨
        .finalized info.blockHash ∈ Notification.upToLast reports) ∧
      Inclusion.confirm c info.blockHash tx = .ok info := by
  obtain ⟨status, hmem, hstatus⟩ := mem_items_of_answer he hop ht hinfo
  obtain ⟨n, hn, hitem⟩ := List.mem_map.mp hmem
  obtain ⟨hreport, hconfirm⟩ := Notification.confirmed_of_item hitem hstatus
  rcases hreport with rfl | rfl
  · exact ⟨.inl hn, hconfirm⟩
  · exact ⟨.inr hn, hconfirm⟩

theorem Inclusion.position_self (x : Extrinsic) : position [x.body] x.hash = some 0 := by
  simp [position, Extrinsic.hash]

theorem StatusStream.watch_of_confirm {c : Client} {tx : TxHash} {block : BlockHash} {info : TxInfo}
    (h : Inclusion.confirm c block tx = .ok info) :
    watch c tx [.ready, .inBlock block, .finalized block] =
      .new tx [.ok .ready, .ok (.inBlock info), .ok (.finalized info)] := by
  simp [watch, Notification.upToLast, Notification.isLast, Notification.item, h, Except.map]

namespace Batch

/-- An account whose signatures are all zeros. -/
def pairSigner : Signer :=
  ⟨.repeated 5, fun _ _ => ⟨Bytes.fit 64 [], Bytes.length_fit 64 []⟩⟩

def pairExtrinsic : Extrinsic :=
  ⟨pairSigner.account, pairSigner.sign 0 pairData, 0, pairData⟩

/-- A block with the pair of transfers. Its events tell of their success, and of the failure of another
extrinsic. -/
def pairBlock : Block :=
  ⟨.ok none, .ok (some [pairExtrinsic.served]),
    .ok ⟨[8, 0, 0, 0, 0, 0, 0, 0, 0, 0, 1, 0, 0, 0, 0, 1, 0, 0], []⟩⟩

/-- A client of a node that knows the block. -/
def pairClient : Client where
  node :=
    ⟨[], .ok .zero, .ok (Profile.standard.runtime .standard), .repeated 7, 0, [(.repeated 7, pairBlock)],
      .error .rpc⟩
  genesis := .zero
  metadata := Profile.standard.runtime .standard

def pairReception : Reception :=
  ⟨false, [.ready, .inBlock (.repeated 7), .finalized (.repeated 7)]⟩

def pairInfo : TxInfo :=
  ⟨.repeated 7, pairExtrinsic.hash⟩

def pairStream : StatusStream :=
  .new pairExtrinsic.hash [.ok .ready, .ok (.inBlock pairInfo), .ok (.finalized pairInfo)]

theorem pair_bodies : pairClient.node.bodies (.repeated 7) = .ok (some [pairExtrinsic.body]) := by
  have hlength : pairExtrinsic.body.length < Bytes.bound 4 := by decide +kernel
  have hserves : pairClient.node.Serves (.repeated 7) [pairExtrinsic.encode] :=
    ⟨by decide, pairBlock, _, rfl, rfl, .cons (Hex.writes_marked_text _) .nil⟩
  exact hserves.bodies (.cons (Scale.isByteVector_encodeBytes hlength) .nil)

/-- What the events of the block tell. -/
def pairRecords : List EventRecord :=
  [⟨.applying 0, "System", "ExtrinsicSuccess", []⟩, ⟨.applying 1, "System", "ExtrinsicFailed", [.call "Other" []]⟩]

theorem confirm_pairRecords {c : Client} {block : BlockHash}
    (hbodies : c.node.bodies block = .ok (some [pairExtrinsic.body])) (hrecords : Records c block pairRecords) :
    Inclusion.confirm c block pairExtrinsic.hash = .ok ⟨block, pairExtrinsic.hash⟩ := by
  have hplace : Places c block pairExtrinsic.hash 0 := ⟨_, hbodies, Inclusion.position_self pairExtrinsic⟩
  refine Inclusion.confirm_eq_ok_iff.mpr ⟨rfl, 0, _, hplace, hrecords, ?_⟩
  simp [pairRecords, TellsOfFailure]

theorem pair_confirm : Inclusion.confirm pairClient (.repeated 7) pairExtrinsic.hash = .ok pairInfo :=
  confirm_pairRecords pair_bodies ⟨_, rfl, rfl⟩

theorem pair_submit :
    pairClient.submit pairSigner pair pairReception = .ok (pairExtrinsic, pairStream) := by
  have hdata : pair.payload.encode pairClient.metadata = .ok pairData := pair_encode
  have hextrinsic : pairClient.extrinsic pairSigner pair.payload .none = .ok pairExtrinsic := by
    rw [Client.extrinsic, hdata]
    rfl
  have hstream : StatusStream.watch pairClient pairExtrinsic.hash pairReception.reports = pairStream :=
    StatusStream.watch_of_confirm pair_confirm
  rw [Client.submit, Client.submitPayload, Client.submission, hextrinsic, ← hstream]
  rfl

end Batch

/-- No success is false. Whenever a wait for a block succeeds on the stream of a submission, of a batch or of
any other call, it names the extrinsic that was sent and a block that the node reported; the block contains
the extrinsic, and of the events of the block none tells that the extrinsic failed or that its batch was
interrupted. -/
theorem Client.success_is_genuine {c : Client} {signer : Signer} {p : Payload} {v : Validation}
    {reception : Reception} {x : Extrinsic} {stream : StatusStream}
    (h : c.submitPayload signer p v reception = .ok (x, stream)) {ops : List StatusStream.Operation}
    {e : StatusStream.Event} {target : Target} {info : TxInfo} (he : e ∈ (stream.run ops).events)
    (hop : e.operation = .waitFor target) (ht : target ≠ .submitted)
    (hinfo : e.answer = .info (.ok info)) :
    info.txHash = stream.txHash ∧ stream.txHash = x.hash ∧
      c.blockContains info.blockHash info.txHash = .ok true ∧
      (.inBlock info.blockHash ∈ Notification.upToLast reception.reports ∨
        .finalized info.blockHash ∈ Notification.upToLast reception.reports) ∧
      ∃ i records, Places c info.blockHash info.txHash i ∧ Records c info.blockHash records ∧
        ∀ r ∈ records, ¬ TellsOfFailure i r := by
  obtain ⟨-, rfl⟩ := submitPayload_eq_ok h
  obtain ⟨hreported, hconfirm⟩ := StatusStream.confirmed_of_answer he hop ht hinfo
  obtain ⟨hself, i, records, hplace, hrecords, hnone⟩ := Inclusion.confirm_eq_ok_iff.mp hconfirm
  have htx : info.txHash = x.hash := congrArg TxInfo.txHash hself
  rw [← htx] at hplace
  exact ⟨htx, rfl, hplace.blockContains, hreported, i, records, hplace, hrecords, hnone⟩

/-- The second wait on the stream of the pair is answered from its last item. -/
theorem Client.success_is_genuine_pair :
    ∃ e ∈ (Batch.pairStream.run [.next, .waitFor .inBlock, .waitFor .finalized]).events,
      e.operation = .waitFor .finalized ∧ e.answer = .info (.ok Batch.pairInfo) ∧
        Batch.pairClient.blockContains (.repeated 7) Batch.pairExtrinsic.hash = .ok true := by
  have hmem : (Batch.pairStream.run [.next, .waitFor .inBlock, .waitFor .finalized]).events[2] ∈
      (Batch.pairStream.run [.next, .waitFor .inBlock, .waitFor .finalized]).events := List.getElem_mem _
  have hgenuine := success_is_genuine Batch.pair_submit hmem rfl (by decide) rfl
  exact ⟨_, hmem, rfl, rfl, hgenuine.2.2.1⟩

end Payout
