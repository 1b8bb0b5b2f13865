import RouteGuard.Lib.Uri
import RouteGuard.Lifecycle.Deadlines

/-!
# Protected resources

The paths that access payments are bound to: tender and version, and the bid for a bid submission.
-/

namespace RouteGuard.Access
open JsString Guarded Uri Lifecycle

/-- `s.includes(needle)`. -/
def includes (needle s : JsString) : Bool := s.tails.any needle.isPrefixOf

def assertId (label value : JsString) : Except JsString Unit := do
  require (value ≠ [] ∧ value.length ≤ 128) (label ++ js " must be a non-empty id <= 128 chars")
  require (¬ (includes (js "/") value ∨ includes (js "\\") value ∨ includes (js "..") value))
    (label ++ js " must not contain path separators")

def assertVersion (version : Int) : Except JsString Unit :=
  require (1 ≤ version ∧ version ≤ MAX_SAFE_INTEGER) (js "tenderVersion must be a positive safe integer")

def encoded (s : JsString) : Except JsString JsString :=
  match encodeURIComponent s with
  | some t => .ok t
  | none => .error (js "URI malformed")

def tenderActivateResource (tenderId : JsString) (tenderVersion : Int) : Except JsString JsString := do
  assertId (js "tenderId") tenderId
  assertVersion tenderVersion
  let tender ← encoded tenderId
  pure (js "/api/v2/tenders/" ++ tender ++ js "/v/" ++ decimalInt tenderVersion ++ js "/activate")

def bidSubmitResource (tenderId : JsString) (tenderVersion : Int) (bidId : JsString) :
    Except JsString JsString := do
  assertId (js "tenderId") tenderId
  assertId (js "bidId") bidId
  assertVersion tenderVersion
  let tender ← encoded tenderId
  let bid ← encoded bidId
  pure (js "/api/v2/tenders/" ++ tender ++ js "/v/" ++ decimalInt tenderVersion ++ js "/bids/" ++ bid)

end RouteGuard.Access
