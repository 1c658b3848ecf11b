import S3tp.Model.Core.TxModule
import S3tp.Model.Concurrent.RxSystem

/-! # Packets of one byte

The packets of the runs that single out an instance or a counterexample: one byte for port 5, as the
client thread fills it in, and as a sender stamps and numbers it.
-/

namespace S3tp.Soundness

open Model.Core Model.Concurrent

/-- A packet of one byte for port 5. -/
def oneByte (byte : UInt8) : S3tpPacket where
  header := { crc := 0, seq := 0, pduLength := 1, seqPort := 0, port := 5 }
  payload := [byte]

theorem oneByte_getPort (byte : UInt8) : (oneByte byte).getPort = 5 := by
  have port : S3tpHeader.getPort { crc := 0, seq := 0, pduLength := 1, seqPort := 0, port := 5 } = 5 := by decide
  exact port

theorem oneByte_getPduLength (byte : UInt8) : (oneByte byte).header.getPduLength = 1 := by
  have length : S3tpHeader.getPduLength { crc := 0, seq := 0, pduLength := 1, seqPort := 0, port := 5 } = 1 := by
    decide
  exact length

/-- A sender whose next packet gets port sequence number `number`. -/
def atNumber (number : UInt8) : TxModule := { TxModule.create default with portSequence := fun _ => number }

/-- A fragment that carries its own index as its byte, as such a sender stamps it, sent with the given
global sequence number. -/
def fragmentOf (globalSeq number index : UInt8) (more : Bool) : S3tpPacket :=
  ((atNumber number).stamped (oneByte index) index more).setGlobalSequence globalSeq

section FragmentOf

variable (globalSeq number index : UInt8) (more : Bool)

@[simp] theorem fragmentOf_moreFragments :
    (fragmentOf globalSeq number index more).header.moreFragments = if more then 1 else 0 := by
  simp [fragmentOf]

@[simp] theorem fragmentOf_getSubSequence :
    (fragmentOf globalSeq number index more).header.getSubSequence = index := by
  simp [fragmentOf]

@[simp] theorem fragmentOf_seqPort : (fragmentOf globalSeq number index more).header.seqPort = number := by
  simp [fragmentOf, atNumber]

@[simp] theorem fragmentOf_getGlobalSequence :
    (fragmentOf globalSeq number index more).header.getGlobalSequence = globalSeq :=
  S3tpHeader.getGlobalSequence_setGlobalSequence _ _

@[simp] theorem fragmentOf_crcValid : (fragmentOf globalSeq number index more).crcValid = true := by
  simp [fragmentOf]

@[simp] theorem fragmentOf_getMessageType :
    (fragmentOf globalSeq number index more).header.getMessageType = msgData := by
  simp [fragmentOf]

@[simp] theorem fragmentOf_getPort : (fragmentOf globalSeq number index more).getPort = 5 :=
  (TxModule.stamped_getPort (atNumber number) (oneByte index) index more).trans (oneByte_getPort index)

@[simp] theorem fragmentOf_getPduLength : (fragmentOf globalSeq number index more).header.getPduLength = 1 :=
  (TxModule.stamped_getPduLength (atNumber number) (oneByte index) index more).trans (oneByte_getPduLength index)

theorem fragmentOf_payload : (fragmentOf globalSeq number index more).payload = [index] := by
  cases more <;> rfl

/-- A module that has the port open accepts the packet. -/
theorem accepts_fragmentOf {rx : RxModule} (active : rx.active = true) (portOpen : rx.isPortOpen 5 = true) :
    rx.accepts (fragmentOf globalSeq number index more) = true := by
  simp [RxModule.accepts, active, portOpen]

end FragmentOf

/-- A freshly started receiver that has port 5 open. -/
def listeningOn5 : RxSystem := { rx := (RxSystem.started.rx.openPort 5).2 }

theorem step_openPort : RxSystem.started.step (.openPort 5) = some listeningOn5 := rfl

/-- It accepts the packet. -/
theorem step_receive_listeningOn5 (globalSeq number index : UInt8) (more : Bool) :
    listeningOn5.rx.accepts (fragmentOf globalSeq number index more) = true ∧
    listeningOn5.step (.receive (fragmentOf globalSeq number index more)) =
      some { rx := listeningOn5.rx.receiveData (fragmentOf globalSeq number index more),
             received := [fragmentOf globalSeq number index more] } := by
  have accepted : listeningOn5.rx.accepts (fragmentOf globalSeq number index more) = true :=
    accepts_fragmentOf globalSeq number index more (by decide) (by decide)
  exact ⟨accepted, RxSystem.step_receive (by decide) accepted⟩

end S3tp.Soundness
