import Cantilune.Runtime.Schema
import Mathlib.Data.Rat.Defs

/-!
# The registry of communication operations

The closed set of operation codes and the family of each. The family of an operation is always derived from its
code.
-/

namespace Cantilune

inductive CommunicationOperationCode where
  | send | sendPrefix | asyncSend | syncSend | quiescentSend | boundOutput | receive | receivePrefix
  | boundInput | syncReceive | quiescentReceive | comm | commData | commChannel | parLeft | parRight | parComm
  | fork | join | parZero | quiescentComm | parAssocLeft | parAssocRight | parSymmetry | scopeOpen | scopeClose
  | scopeExtrusion | scopeIntrusion | scopeReordering | scopeUnused | delegation | handoff | reconnectDelegation
  | reconnectHandoff | choiceLeft | choiceRight | choiceComm | choiceZero | choiceAssocLeft | choiceAssocRight
  | choiceSymmetry | tauPrefix | zeroElim | contextSwitch | stateSnapshot | eventLog | matchEqTrue
  | matchNeFalse | matchEqFalse | matchNeTrue | mismatch | guardedMismatch | mismatchGuarded | mismatchReport
  | newChannel | reconnect | delete | quiescentDelete | deleteWithCleanup | deleteImmediate
  deriving DecidableEq, Repr

inductive CommunicationOperationFamily where
  | freeOutput | boundOutput | lateInput | communication | openClose | restriction | scopeExtrusion | delegation
  | choiceLeft | choiceRight | matchSuccess | mismatchGuard | dynamicPartnerAdmission | instanceReconnect
  | instanceDeleteQuiescent
  deriving DecidableEq, Repr

namespace CommunicationOperationCode

def name : CommunicationOperationCode → String
  | .send => "send"
  | .sendPrefix => "sendPrefix"
  | .asyncSend => "asyncSend"
  | .syncSend => "syncSend"
  | .quiescentSend => "quiescentSend"
  | .boundOutput => "boundOutput"
  | .receive => "receive"
  | .receivePrefix => "receivePrefix"
  | .boundInput => "boundInput"
  | .syncReceive => "syncReceive"
  | .quiescentReceive => "quiescentReceive"
  | .comm => "comm"
  | .commData => "commData"
  | .commChannel => "commChannel"
  | .parLeft => "parLeft"
  | .parRight => "parRight"
  | .parComm => "parComm"
  | .fork => "fork"
  | .join => "join"
  | .parZero => "parZero"
  | .quiescentComm => "quiescentComm"
  | .parAssocLeft => "parAssocLeft"
  | .parAssocRight => "parAssocRight"
  | .parSymmetry => "parSymmetry"
  | .scopeOpen => "scopeOpen"
  | .scopeClose => "scopeClose"
  | .scopeExtrusion => "scopeExtrusion"
  | .scopeIntrusion => "scopeIntrusion"
  | .scopeReordering => "scopeReordering"
  | .scopeUnused => "scopeUnused"
  | .delegation => "delegation"
  | .handoff => "handoff"
  | .reconnectDelegation => "reconnectDelegation"
  | .reconnectHandoff => "reconnectHandoff"
  | .choiceLeft => "choiceLeft"
  | .choiceRight => "choiceRight"
  | .choiceComm => "choiceComm"
  | .choiceZero => "choiceZero"
  | .choiceAssocLeft => "choiceAssocLeft"
  | .choiceAssocRight => "choiceAssocRight"
  | .choiceSymmetry => "choiceSymmetry"
  | .tauPrefix => "tauPrefix"
  | .zeroElim => "zeroElim"
  | .contextSwitch => "contextSwitch"
  | .stateSnapshot => "stateSnapshot"
  | .eventLog => "eventLog"
  | .matchEqTrue => "matchEqTrue"
  | .matchNeFalse => "matchNeFalse"
  | .matchEqFalse => "matchEqFalse"
  | .matchNeTrue => "matchNeTrue"
  | .mismatch => "mismatch"
  | .guardedMismatch => "guardedMismatch"
  | .mismatchGuarded => "mismatchGuarded"
  | .mismatchReport => "mismatchReport"
  | .newChannel => "newChannel"
  | .reconnect => "reconnect"
  | .delete => "delete"
  | .quiescentDelete => "quiescentDelete"
  | .deleteWithCleanup => "deleteWithCleanup"
  | .deleteImmediate => "deleteImmediate"

def all : List CommunicationOperationCode :=
  [.send, .sendPrefix, .asyncSend, .syncSend, .quiescentSend, .boundOutput, .receive, .receivePrefix,
    .boundInput, .syncReceive, .quiescentReceive, .comm, .commData, .commChannel, .parLeft, .parRight,
    .parComm, .fork, .join, .parZero, .quiescentComm, .parAssocLeft, .parAssocRight, .parSymmetry, .scopeOpen,
    .scopeClose, .scopeExtrusion, .scopeIntrusion, .scopeReordering, .scopeUnused, .delegation, .handoff,
    .reconnectDelegation, .reconnectHandoff, .choiceLeft, .choiceRight, .choiceComm, .choiceZero,
    .choiceAssocLeft, .choiceAssocRight, .choiceSymmetry, .tauPrefix, .zeroElim, .contextSwitch,
    .stateSnapshot, .eventLog, .matchEqTrue, .matchNeFalse, .matchEqFalse, .matchNeTrue, .mismatch,
    .guardedMismatch, .mismatchGuarded, .mismatchReport, .newChannel, .reconnect, .delete, .quiescentDelete,
    .deleteWithCleanup, .deleteImmediate]

/-- The code that a text names, if `isCommunicationOperationCode` holds of it. -/
def ofName? (text : String) : Option CommunicationOperationCode := all.find? fun code => code.name = text

theorem ofName?_name (code : CommunicationOperationCode) : ofName? code.name = some code := by
  cases code <;> decide

def family : CommunicationOperationCode → CommunicationOperationFamily
  | .send | .sendPrefix | .asyncSend | .syncSend | .quiescentSend => .freeOutput
  | .boundOutput => .boundOutput
  | .receive | .receivePrefix | .boundInput | .syncReceive | .quiescentReceive => .lateInput
  | .comm | .commData | .commChannel | .parLeft | .parRight | .parComm | .fork | .join | .parZero
  | .quiescentComm | .parAssocLeft | .parAssocRight | .parSymmetry => .communication
  | .scopeOpen => .openClose
  | .scopeClose => .restriction
  | .scopeExtrusion | .scopeIntrusion | .scopeReordering | .scopeUnused => .scopeExtrusion
  | .delegation | .handoff | .reconnectDelegation | .reconnectHandoff => .delegation
  | .choiceLeft | .choiceComm | .choiceZero | .choiceAssocLeft | .choiceAssocRight | .choiceSymmetry
  | .tauPrefix | .zeroElim | .contextSwitch | .stateSnapshot | .eventLog => .choiceLeft
  | .choiceRight => .choiceRight
  | .matchEqTrue | .matchNeFalse => .matchSuccess
  | .matchEqFalse | .matchNeTrue | .mismatch | .guardedMismatch | .mismatchGuarded
  | .mismatchReport => .mismatchGuard
  | .newChannel => .dynamicPartnerAdmission
  | .reconnect => .instanceReconnect
  | .delete | .quiescentDelete | .deleteWithCleanup | .deleteImmediate => .instanceDeleteQuiescent

end CommunicationOperationCode

structure CommunicationOperationBinding where
  registryVersion : Nat
  operationCode : CommunicationOperationCode
  operationTemplateRef : OperationTemplateRef
  codecRef : String
  handlerManifestRef : HandlerManifestRef
  protocolVersion : String
  family : CommunicationOperationFamily
  deriving DecidableEq

def resolveOperationBinding (operationCode : CommunicationOperationCode) (operationTemplateRef : OperationTemplateRef)
    (codecRef : String) (handlerManifestRef : HandlerManifestRef) (protocolVersion : String)
    (registryVersion : Option Nat := none) :
    CommunicationOperationBinding :=
  { registryVersion := registryVersion.getD 1, operationCode, operationTemplateRef, codecRef, handlerManifestRef
    protocolVersion, family := operationCode.family }

end Cantilune
