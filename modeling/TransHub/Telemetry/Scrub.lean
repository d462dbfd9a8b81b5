import TransHub.Foundation.Regex
import TransHub.Frontend.Api

/-!
# Scrubbing telemetry

`infra/sentry/scrub` and the web application's `lib/sentry-scrub`: what an event loses before it
is sent.  Keys that look sensitive lose their values; a text loses the first match of each of the
token patterns.

* `Scrubber`: the patterns of a scrubber; `backend` and `frontend` are those of the source.
* `redactString`, `scrubAt`, `scrubEvent`.
* `Event.payloads`: what the scrubber has to answer for.
-/

namespace TransHub
namespace Telemetry

open Frontend (Json)
open Regex (literal seqs alts opt)

/-! ## Patterns -/

/-- `REDACTED`. -/
def redacted : String := "[Filtered]"

/-- `MAX_DEPTH`. -/
def maxDepth : ℕ := 8

/-- `[A-Za-z0-9_-]`. -/
def isBase64Url (c : Char) : Bool := c.isAlphanum || c == '_' || c == '-'

/-- `[A-Za-z0-9._-]`. -/
def isTokenChar (c : Char) : Bool := isBase64Url c || c == '.'

/-- `\beyJ[A-Za-z0-9_-]{10,}\.[A-Za-z0-9_-]{10,}\.[A-Za-z0-9_-]{5,}\b`. -/
def jwt : Regex :=
  seqs [.boundary, literal "eyJ", .many isBase64Url 10, literal ".", .many isBase64Url 10,
    literal ".", .many isBase64Url 5, .boundary]

/-- `\bBearer\s+[A-Za-z0-9._-]{8,}`, whatever the case. -/
def bearer : Regex :=
  (seqs [.boundary, literal "Bearer", .many Regex.isSpace 1, .many isTokenChar 8]).ignoreCase

/-- `\bsk_(live|test)_[A-Za-z0-9]+`. -/
def secretKey : Regex :=
  seqs [.boundary, literal "sk_", alts [literal "live", literal "test"], literal "_",
    .many Char.isAlphanum 1]

/-- `\b(sk|pk)_(live|test)_[A-Za-z0-9]+`. -/
def providerKey : Regex :=
  seqs [.boundary, alts [literal "sk", literal "pk"], literal "_",
    alts [literal "live", literal "test"], literal "_", .many Char.isAlphanum 1]

/-- `[-_]?`. -/
def dash : Regex := opt (.set fun c => c == '-' || c == '_')

/-- `\bword\b`. -/
def wholeWord (s : String) : Regex := seqs [.boundary, literal s, .boundary]

/-- `SENSITIVE_KEY` of the backend. -/
def backendSensitiveKey : Regex :=
  (alts [seqs [literal "pass", opt (alts [literal "word", literal "wd"])], literal "secret",
    literal "token", literal "authorization", literal "cookie",
    seqs [literal "api", dash, literal "key"], seqs [literal "access", dash, literal "key"],
    seqs [literal "client", dash, literal "secret"], literal "paystack", literal "signature",
    seqs [literal "card", opt (seqs [literal "num", opt (literal "ber")])], literal "cvv",
    literal "cvc", wholeWord "pin", wholeWord "ssn", wholeWord "otp", wholeWord "jwt",
    wholeWord "dsn", literal "credential", seqs [literal "private", dash, literal "key"],
    seqs [literal "refresh", dash, literal "token"]]).ignoreCase

/-- `SENSITIVE_KEY` of the web application. -/
def frontendSensitiveKey : Regex :=
  (alts [seqs [literal "pass", opt (alts [literal "word", literal "wd"])], literal "secret",
    literal "token", literal "authorization", literal "cookie",
    seqs [literal "api", dash, literal "key"],
    seqs [literal "card", opt (seqs [literal "num", opt (literal "ber")])], literal "cvv",
    literal "cvc", wholeWord "pin", wholeWord "otp", wholeWord "jwt", wholeWord "dsn",
    literal "credential", literal "paystack", literal "signature",
    seqs [literal "refresh", dash, literal "token"]]).ignoreCase

/-- `SENSITIVE_HEADER`. -/
def sensitiveHeader : Regex :=
  (seqs [.start, alts [literal "authorization", literal "cookie", literal "set-cookie",
    literal "x-paystack-signature", literal "proxy-authorization"], .stop]).ignoreCase

/-- `SENSITIVE_KEY` and `TOKEN_VALUE`; the marker is no token, nor part of one. -/
structure Scrubber where
  sensitiveKey : Regex
  tokenValue : List Regex
  inert : ∀ r ∈ tokenValue, r.Inert redacted.toList
  silent : ∀ r ∈ tokenValue, r.test redacted.toList = false

theorem inert_redacted {r : Regex} (h : r.separates '[' = true ∧ r.separates ']' = true)
    (hmid : r.exec "Filtered".toList = none) : r.Inert redacted.toList :=
  ⟨'[', "Filtered".toList, ']', by decide, h.1, h.2, hmid⟩

theorem inert_jwt : jwt.Inert redacted.toList := inert_redacted (by decide) (by decide)

theorem inert_bearer : bearer.Inert redacted.toList := inert_redacted (by decide) (by decide)

theorem inert_secretKey : secretKey.Inert redacted.toList := inert_redacted (by decide) (by decide)

theorem inert_providerKey : providerKey.Inert redacted.toList :=
  inert_redacted (by decide) (by decide)

/-- The scrubber of the backend. -/
def backend : Scrubber where
  sensitiveKey := backendSensitiveKey
  tokenValue := [jwt, bearer, secretKey]
  inert := List.forall_mem_cons.mpr ⟨inert_jwt,
    List.forall_mem_cons.mpr ⟨inert_bearer, List.forall_mem_singleton.mpr inert_secretKey⟩⟩
  silent := by decide

/-- The scrubber of the web application. -/
def frontend : Scrubber where
  sensitiveKey := frontendSensitiveKey
  tokenValue := [jwt, bearer, providerKey]
  inert := List.forall_mem_cons.mpr ⟨inert_jwt,
    List.forall_mem_cons.mpr ⟨inert_bearer, List.forall_mem_singleton.mpr inert_providerKey⟩⟩
  silent := by decide

/-! ## Scrubbing -/

/-- A record, as the list of its entries. -/
abbrev Fields := List (String × Json)

namespace Scrubber

variable (S : Scrubber)

def redactString (value : String) : String :=
  String.ofList (Regex.replaceEach S.tokenValue redacted.toList value.toList)

/-- `SENSITIVE_KEY.test(key)`. -/
def isSensitive (key : String) : Bool := S.sensitiveKey.test key.toList

/-- The loop over the entries of an object.  To assign to `__proto__` sets no own key. -/
def scrubFields (scrub : Json → Json) (fields : Fields) : Fields :=
  (fields.filter fun e => e.1 ≠ "__proto__").map fun e =>
    (e.1, if S.isSensitive e.1 then .str redacted else scrub e.2)

/-- `scrubValue(value, depth)`, where `n` is what is left of the depth: `maxDepth + 1 - depth`. -/
def scrubAt : ℕ → Json → Json
  | 0, _ => .str redacted
  | _ + 1, .null => .null
  | _ + 1, .bool b => .bool b
  | _ + 1, .num q => .num q
  | _ + 1, .str s => .str (S.redactString s)
  | n + 1, .arr items => .arr (items.map (scrubAt n))
  | n + 1, .obj fields => .obj (S.scrubFields (scrubAt n) fields)

def scrubValue (value : Json) : Json := S.scrubAt (maxDepth + 1) value

/-- `scrubValue` of a record. -/
def scrubRecord (fields : Fields) : Fields := S.scrubFields (S.scrubAt maxDepth) fields

end Scrubber

/-- `scrubHeaders`. -/
def scrubHeaders (headers : Fields) : Fields :=
  backend.scrubFields backend.scrubValue
    (headers.filter fun e => !sensitiveHeader.test e.1.toList)

/-- `event.request`. -/
structure EventRequest where
  headers : Option Fields
  cookies : Option Json
  data : Option Json
  queryString : Option Json

structure Breadcrumb where
  data : Option Json
  message : Option Json

/-- The parts of an event that are scrubbed. -/
structure Event where
  request : Option EventRequest
  extra : Option Fields
  contexts : Option Fields
  breadcrumbs : Option (List Breadcrumb)

/-- The value counts as true in a condition. -/
def truthy : Json → Bool
  | .null => false
  | .bool b => b
  | .num n => n != 0
  | .str s => s != ""
  | .arr _ | .obj _ => true

/-- A text is redacted, anything else is left. -/
def Scrubber.redactText (S : Scrubber) : Json → Json
  | .str s => .str (S.redactString s)
  | v => v

/-- `scrubEvent`, with what it does to the headers. -/
def Scrubber.scrubEvent (S : Scrubber) (headers : Fields → Fields) (event : Event) : Event where
  request := event.request.map fun r =>
    { headers := r.headers.map headers
      cookies := r.cookies.filter fun v => !truthy v
      data := r.data.map S.scrubValue
      queryString := r.queryString.map S.redactText }
  extra := event.extra.map S.scrubRecord
  contexts := event.contexts.map S.scrubRecord
  breadcrumbs := event.breadcrumbs.map fun bs => bs.map fun b =>
    { data := b.data.map S.scrubValue, message := b.message.map S.redactText }

/-- `scrubEvent` of the backend. -/
def scrubEvent : Event → Event := backend.scrubEvent scrubHeaders

/-- `scrubEvent` of the web application. -/
def scrubBrowserEvent : Event → Event := frontend.scrubEvent frontend.scrubRecord

/-- The headers and the data of the request, the extras, the contexts and the data of the
breadcrumbs. -/
def Event.payloads (event : Event) : List Json :=
  event.request.toList.flatMap (fun r => r.headers.toList.map .obj ++ r.data.toList) ++
    event.extra.toList.map .obj ++ event.contexts.toList.map .obj ++
    (event.breadcrumbs.getD []).flatMap fun b => b.data.toList

end Telemetry
end TransHub
