import S3tp.Model.Core.TxModule

/-! # Accepting a payload for transmission

`sendToLinkLayer` tests whether the transmitting module can take the payload, and then enqueues it
as one packet or in fragments. The payload is the memory behind the caller's `data` pointer: byte
`i` is `memory i`, and the payload proper is the first `len` of them. The loop of `fragmentPayload`
moves `dataPtr` by the bytes written so far, not by those of the last fragment.

The calls to `enqueuePacket` depend on the module only through its refusal to go on, so they are
listed first, each with the offset it copies from, and made one after the other afterwards.
-/

namespace S3tp.Model.Core

/-- `CODE_ERROR_MAX_MESSAGE_SIZE`. -/
def codeErrorMaxMessageSize : ℤ := -2

/-- `CODE_INTERNAL_ERROR`. -/
def codeInternalError : ℤ := -3

/-- `CODE_QUEUE_FULL`. -/
def codeQueueFull : ℤ := -4

/-- `CODE_LINK_UNAVAIABLE`. -/
def codeLinkUnavailable : ℤ := -5

/-- `CODE_CHANNEL_BROKEN`. -/
def codeChannelBroken : ℤ := -6

/-- The arguments of a call to `enqueuePacket`, and the offset its payload was copied from. -/
structure EnqueueCall where
  source : ℕ
  packet : S3tpPacket
  fragNo : UInt8
  moreFragments : Bool

/-- What a caller hands to `sendToLinkLayer`. -/
structure Submission where
  channel : UInt8
  port : UInt8
  memory : ℕ → UInt8
  len : ℕ
  opts : UInt8

namespace Submission

variable (m : Submission)

/-- The bytes the caller means to send. -/
def data : List UInt8 := (List.range m.len).map m.memory

/-- The bytes a packet constructor copies from an offset. -/
def copied (source count : ℕ) : List UInt8 := (List.range' source count).map m.memory

/-- A packet of the caller's channel, options and port. -/
def packet (fresh : S3tpHeader) (source count : ℕ) : S3tpPacket :=
  let packet := S3tpPacket.ofPdu fresh (m.copied source count)
  { packet with header := packet.header.setPort m.port, channel := m.channel, options := m.opts }

/-- The one call of `sendSimplePayload`. -/
def simpleCall (fresh : S3tpHeader) : EnqueueCall where
  source := 0
  packet := m.packet fresh 0 m.len
  fragNo := 0
  moreFragments := false

theorem getPduLength_packet (fresh : S3tpHeader) (source count : ℕ) (bound : count < 2 ^ 14) :
    (m.packet fresh source count).header.getPduLength.toNat = count := by
  have length : (UInt16.ofNat (m.copied source count).length).toNat = count := by
    rw [copied, List.length_map, List.length_range', UInt16.toNat_ofNat', Nat.mod_eq_of_lt (by omega)]
  have kept := S3tpHeader.getPduLength_setPduLength_of_lt fresh (by rw [length]; exact bound)
  exact (congrArg UInt16.toNat kept).trans length

theorem pdu_packet (fresh : S3tpHeader) (source count : ℕ) (bound : count < 2 ^ 14) :
    (m.packet fresh source count).pdu = m.copied source count := by
  have length : (m.copied source count).length < 2 ^ 14 := by simpa [copied] using bound
  exact S3tpPacket.pdu_ofPdu fresh length

/-- Copying on from where an earlier copy ended. -/
theorem copied_append (source first second : ℕ) :
    m.copied source first ++ m.copied (source + first) second = m.copied source (first + second) := by
  simp [copied, ← List.map_append]

theorem copied_zero_len : m.copied 0 m.len = m.data := by
  rw [copied, data, List.range_eq_range']

theorem getPort_packet (fresh : S3tpHeader) (source count : ℕ) :
    (m.packet fresh source count).getPort = m.port &&& 0x7F := S3tpHeader.getPort_setPort _ _

/-- The packet `fragmentPayload` fills in one pass of its loop. -/
def fragment (fresh : S3tpHeader) (written dataPtr : ℕ) : S3tpPacket :=
  m.packet fresh dataPtr (if m.len < written + lenS3tpPdu then m.len - written else lenS3tpPdu)

theorem written_fragment (fresh : S3tpHeader) {written : ℕ} (dataPtr : ℕ) (going : written < m.len) :
    written + (m.fragment fresh written dataPtr).header.getPduLength.toNat =
      min m.len (written + lenS3tpPdu) := by
  have size : lenS3tpPdu = 992 := rfl
  rw [fragment, m.getPduLength_packet fresh dataPtr _ (by split <;> omega), size]
  split <;> omega

theorem lt_written_fragment (fresh : S3tpHeader) {written : ℕ} (dataPtr : ℕ) (going : written < m.len) :
    written < written + (m.fragment fresh written dataPtr).header.getPduLength.toNat := by
  rw [m.written_fragment fresh dataPtr going, lt_min_iff]
  exact ⟨going, Nat.lt_add_of_pos_right (by decide)⟩

/-- The calls of `fragmentPayload`'s loop from one pass on. -/
def fragmentCalls (fresh : ℕ → S3tpHeader) (written dataPtr : ℕ) (fragNo : UInt8) : List EnqueueCall :=
  if going : written < m.len then
    let packet := m.fragment (fresh written) written dataPtr
    let written' := written + packet.header.getPduLength.toNat
    have progress : m.len - written' < m.len - written := by
      have bytes : written < written' := m.lt_written_fragment (fresh written) dataPtr going
      omega
    ⟨dataPtr, packet, fragNo, decide (written' < m.len)⟩ ::
      fragmentCalls fresh written' (dataPtr + written') (fragNo + 1)
  else []
termination_by m.len - written

/-- All calls a payload is turned into. -/
def calls (fresh : ℕ → S3tpHeader) : List EnqueueCall :=
  if lenS3tpPdu < m.len then m.fragmentCalls fresh 0 0 0 else [m.simpleCall (fresh 0)]

end Submission

namespace TxModule

/-- `checkTransmissionAvailability`. The number of packets is computed from the length's low 16 bits. -/
def checkTransmissionAvailability (tx : TxModule) (port channel : UInt8) (msgLen : UInt16) : ℤ :=
  if tx.getCurrentState = .blocked then codeLinkUnavailable
  else
    let noPackets := UInt8.ofNat (msgLen.toNat / lenS3tpPdu)
    let noPackets := if 0 < msgLen.toNat % lenS3tpPdu then noPackets + 1 else noPackets
    if !tx.isQueueAvailable port noPackets then codeQueueFull
    else if !tx.isChannelAvailable channel then codeChannelBroken
    else codeSuccess

/-- The admission test has no bound on the backlog. -/
theorem checkTransmissionAvailability_eq_success {tx : TxModule} {channel : UInt8}
    (flowing : tx.state ≠ .blocked) (whitelisted : tx.isChannelAvailable channel = true) (port : UInt8)
    (msgLen : UInt16) : tx.checkTransmissionAvailability port channel msgLen = codeSuccess := by
  simp [checkTransmissionAvailability, getCurrentState, flowing, isQueueAvailable_eq_true, whitelisted]

/-- The number of packets it asks room for. -/
def noPackets (msgLen : UInt16) : UInt8 :=
  let noPackets := UInt8.ofNat (msgLen.toNat / lenS3tpPdu)
  if 0 < msgLen.toNat % lenS3tpPdu then noPackets + 1 else noPackets

theorem checkTransmissionAvailability_eq (tx : TxModule) (port channel : UInt8) (msgLen : UInt16) :
    tx.checkTransmissionAvailability port channel msgLen =
      if tx.getCurrentState = .blocked then codeLinkUnavailable
      else if !tx.isQueueAvailable port (noPackets msgLen) then codeQueueFull
      else if !tx.isChannelAvailable channel then codeChannelBroken
      else codeSuccess := rfl

/-- Make the calls in order, until one is refused. Before each call other threads may have used the
module. The packets are those handed over, as the module stamped them. -/
def enqueueAll (others : ℕ → TxModule → TxModule) (tx : TxModule) : ℕ → List EnqueueCall →
    ℤ × List S3tpPacket × TxModule
  | _, [] => (codeSuccess, [], tx)
  | pass, call :: rest =>
    match (others pass tx).stampPacket call.packet call.fragNo call.moreFragments with
    | none => (codeInactiveError, [], others pass tx)
    | some (packet, tx) =>
      let (status, packets, tx) := enqueueAll others (tx.writePacket packet) (pass + 1) rest
      (status, packet :: packets, tx)

/-- `fragmentPayload`. -/
def fragmentPayload (others : ℕ → TxModule → TxModule) (fresh : ℕ → S3tpHeader) (tx : TxModule)
    (m : Submission) : ℤ × List S3tpPacket × TxModule :=
  tx.enqueueAll others 0 (m.fragmentCalls fresh 0 0 0)

/-- `sendSimplePayload`. -/
def sendSimplePayload (others : ℕ → TxModule → TxModule) (fresh : ℕ → S3tpHeader) (tx : TxModule)
    (m : Submission) : ℤ × List S3tpPacket × TxModule :=
  tx.enqueueAll others 0 [m.simpleCall (fresh 0)]

/-- `sendToLinkLayer`: the tests, then the calls. The first argument is the instance's own flag. -/
def sendToLinkLayer (active : Bool) (others : ℕ → TxModule → TxModule) (fresh : ℕ → S3tpHeader)
    (tx : TxModule) (m : Submission) : ℤ × List S3tpPacket × TxModule :=
  if !active then (codeInternalError, [], tx) else
  let availability := tx.checkTransmissionAvailability m.port m.channel (UInt16.ofNat m.len)
  if availability ≠ codeSuccess then (availability, [], tx)
  else if maxPduLength < m.len then (codeErrorMaxMessageSize, [], tx)
  else if lenS3tpPdu < m.len then tx.fragmentPayload others fresh m
  else tx.sendSimplePayload others fresh m

/-- What the tests of a started instance answer, without the calls behind them. -/
def admission (tx : TxModule) (m : Submission) : ℤ :=
  let availability := tx.checkTransmissionAvailability m.port m.channel (UInt16.ofNat m.len)
  if availability ≠ codeSuccess then availability
  else if maxPduLength < m.len then codeErrorMaxMessageSize
  else codeSuccess

/-- A payload that is admitted is handed over in its calls. -/
theorem sendToLinkLayer_eq (others : ℕ → TxModule → TxModule) (fresh : ℕ → S3tpHeader) (tx : TxModule)
    (m : Submission) : tx.sendToLinkLayer true others fresh m =
      if tx.admission m = codeSuccess then tx.enqueueAll others 0 (m.calls fresh)
      else (tx.admission m, [], tx) := by
  simp only [sendToLinkLayer, admission, fragmentPayload, sendSimplePayload, Submission.calls, Bool.not_true,
    Bool.false_eq_true, if_false]
  split
  · rfl
  split
  · rfl
  · split <;> rfl

end TxModule

end S3tp.Model.Core
