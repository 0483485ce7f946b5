import Cantilune.Base.JsObject
import Cantilune.Base.JsString
import Cantilune.Base.OrdMap
import Cantilune.Core.Nodes

/-!
# The journal of tool invocations

Before a tool is executed an entry is put into the content store, under a ref that is a function of the invocation's
key. A JSON text is kept as the value that it spells.
-/

namespace Cantilune

/-! ## Content -/

inductive StoredContent where
  | text (text : String)
  | json (value : Json)
  deriving DecidableEq

structure ContentMetadata where
  size : Nat
  mimeType : String
  createdBy : Option String
  deriving DecidableEq

structure ContentBlob where
  bytes : StoredContent
  metadata : ContentMetadata
  deriving DecidableEq

structure ContentPutOptions where
  mimeType : Option String := none
  createdBy : Option String := none

structure ContentHost where
  hasher : StoredContent → ContentRef
  byteLength : StoredContent → Nat

abbrev ContentStore := OrdMap ContentRef ContentBlob

/-- Stored under its hash; what is there already stays. -/
def ContentStore.put (host : ContentHost) (store : ContentStore) (content : StoredContent)
    (options : ContentPutOptions) : ContentStore :=
  if store.has (host.hasher content) then store
  else store.set (host.hasher content)
    { bytes := content
      metadata :=
        { size := host.byteLength content, mimeType := options.mimeType.getD "application/octet-stream"
          createdBy := options.createdBy } }

/-! ## Arguments -/

mutual
/-- The value with the members of every object sorted by the collation of their names. -/
def canonicalJson (localeCompare : LocaleCompare) : Json → Json
  | .arr xs => .arr (canonicalJsonList localeCompare xs)
  | .obj ms =>
      fromEntries ((canonicalJsonMembers localeCompare ms).insertionSort fun a b => localeCompare a.1 b.1 ≤ 0)
  | j => j

def canonicalJsonList (localeCompare : LocaleCompare) : List Json → List Json
  | [] => []
  | x :: xs => canonicalJson localeCompare x :: canonicalJsonList localeCompare xs

def canonicalJsonMembers (localeCompare : LocaleCompare) : List (String × Json) → List (String × Json)
  | [] => []
  | (k, x) :: xs => (k, canonicalJson localeCompare x) :: canonicalJsonMembers localeCompare xs
end

structure CanonicalArguments where
  args : Json
  digest : String
  deriving DecidableEq

/-- What the host needs to make arguments canonical: a collation and a digest of the JSON text. -/
structure ArgumentHost where
  localeCompare : LocaleCompare
  sha256 : Json → String

def canonicalToolArguments (host : ArgumentHost) (args : Json) : Option CanonicalArguments :=
  match canonicalJson host.localeCompare args with
  | .obj members => some { args := .obj members, digest := "sha256:" ++ host.sha256 (.obj members) }
  | _ => none

/-- `/^sha256:[0-9a-f]{64}$/u`. -/
def isSha256Digest (s : String) : Bool :=
  match s.toList with
  | 's' :: 'h' :: 'a' :: '2' :: '5' :: '6' :: ':' :: hex =>
      hex.length = 64 && hex.all fun c => c.isDigit || ('a' ≤ c && c ≤ 'f')
  | _ => false

/-! ## Intents -/

structure SyscallPrincipal where
  actorId : String
  kind : String
  deriving DecidableEq

structure ToolInvocationKey where
  principal : SyscallPrincipal
  toolName : String
  argumentsDigest : String
  originalToolCallId : String
  deriving DecidableEq

inductive IntentStatus where
  | dispatched | completed
  deriving DecidableEq

structure ToolInvocationIntent where
  principal : SyscallPrincipal
  toolName : String
  originalToolCallId : String
  argumentsDigest : String
  status : IntentStatus
  outputRef : Option String
  deriving DecidableEq

def TOOL_INVOCATION_INTENT_KIND : String := "cantilune.external-tool-invocation-intent"
def TOOL_INVOCATION_INTENT_VERSION : ℚ := 1
def TOOL_INVOCATION_INTENT_MIME : String := "application/vnd.cantilune.tool-invocation-intent+json"
def TOOL_INVOCATION_INTENT_CREATOR : String := "cantilune:tool-invocation-intent:v1"

def IntentStatus.text : IntentStatus → String
  | .dispatched => "dispatched"
  | .completed => "completed"

/-- The fields in their fixed order. -/
def intentText (intent : ToolInvocationIntent) : Json :=
  .record
    [("argumentsDigest", some (.str intent.argumentsDigest)), ("kind", some (.str TOOL_INVOCATION_INTENT_KIND)),
      ("originalToolCallId", some (.str intent.originalToolCallId)), ("outputRef", intent.outputRef.map .str),
      ("principal",
        some (.record [("actorId", some (.str intent.principal.actorId)), ("kind", some (.str intent.principal.kind))])),
      ("status", some (.str intent.status.text)), ("toolName", some (.str intent.toolName)),
      ("version", some (.num TOOL_INVOCATION_INTENT_VERSION))]

def ToolInvocationKey.intent (key : ToolInvocationKey) (status : IntentStatus) (outputRef : Option ContentRef) :
    ToolInvocationIntent :=
  { principal := key.principal, toolName := key.toolName, originalToolCallId := key.originalToolCallId
    argumentsDigest := key.argumentsDigest, status, outputRef }

/-- The ref of an entry of the journal. -/
def intentRef (host : ContentHost) (key : ToolInvocationKey) (status : IntentStatus)
    (outputRef : Option ContentRef := none) : ContentRef :=
  host.hasher (.json (intentText (key.intent status outputRef)))

def exactKeys (members : List (String × Json)) (expected : List String) : Bool :=
  (members.map (·.1)).insertionSort (fun a b => !JsString.lt b a) = expected

def parseIntentStatus : Option Json → Option IntentStatus
  | some (.str "dispatched") => some .dispatched
  | some (.str "completed") => some .completed
  | _ => none

def strictPrincipal : Option Json → Option SyscallPrincipal
  | some (.obj members) =>
      if exactKeys members ["actorId", "kind"] then
        match (Json.obj members).get? "actorId", (Json.obj members).get? "kind" with
        | some (.str actorId), some (.str kind) => some { actorId, kind }
        | _, _ => none
      else none
  | _ => none

def strictIntent (value : Json) : Option ToolInvocationIntent :=
  match value with
  | .obj members =>
      let field := fun k => (Json.obj members).get? k
      let hasOutput := (field "outputRef").isSome
      let expected :=
        if hasOutput then
          ["argumentsDigest", "kind", "originalToolCallId", "outputRef", "principal", "status", "toolName", "version"]
        else ["argumentsDigest", "kind", "originalToolCallId", "principal", "status", "toolName", "version"]
      if exactKeys members expected then
        match strictPrincipal (field "principal"), parseIntentStatus (field "status"), field "toolName",
          field "originalToolCallId", field "argumentsDigest" with
        | some principal, some status, some (.str toolName), some (.str originalToolCallId),
            some (.str argumentsDigest) =>
            if field "kind" = some (.str TOOL_INVOCATION_INTENT_KIND) ∧
                field "version" = some (.num TOOL_INVOCATION_INTENT_VERSION) then
              match field "outputRef" with
              | none => some { principal, toolName, originalToolCallId, argumentsDigest, status, outputRef := none }
              | some (.str outputRef) =>
                  some { principal, toolName, originalToolCallId, argumentsDigest, status, outputRef }
              | some _ => none
            else none
        | _, _, _, _, _ => none
      else none
  | _ => none

def blobIntent (host : ContentHost) (ref : ContentRef) (blob : ContentBlob) : Option ToolInvocationIntent :=
  if blob.metadata.mimeType ≠ TOOL_INVOCATION_INTENT_MIME ∨
      blob.metadata.createdBy ≠ some TOOL_INVOCATION_INTENT_CREATOR ∨
      blob.metadata.size ≠ host.byteLength blob.bytes then none
  else if host.hasher blob.bytes ≠ ref then none
  else
    match blob.bytes with
    | .json value => strictIntent value
    | .text text => (Json.parse text).bind strictIntent

end Cantilune
