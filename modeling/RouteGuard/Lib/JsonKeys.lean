import RouteGuard.Lib.Json

/-!
# The keys inside a JSON value

* `keys` : the keys of every object anywhere inside a value;
* `objectKeys` : of those reached from the value through objects alone, without an array on the way.
-/

namespace Json

mutual

def keys : Json → List JsString
  | .arr items => keysOfItems items
  | .obj fields => keysOfFields fields
  | _ => []

def keysOfItems : List Json → List JsString
  | [] => []
  | item :: rest => keys item ++ keysOfItems rest

def keysOfFields : List (JsString × Json) → List JsString
  | [] => []
  | (key, value) :: rest => key :: (keys value ++ keysOfFields rest)

end

mutual

def objectKeys : Json → List JsString
  | .obj fields => objectKeysOfFields fields
  | _ => []

def objectKeysOfFields : List (JsString × Json) → List JsString
  | [] => []
  | (key, value) :: rest => key :: (objectKeys value ++ objectKeysOfFields rest)

end

end Json
