import KernelStats.Settings.Line

/-!
# Environments

The variables of a program. The system holds each as one text, which a NUL ends and which should read
`name=value`, and knows no more about them than their order. A key is looked up by comparing it with
the front of the texts; the first that goes on with an equals sign has the value. So a key may hold
equals signs of its own, and of two texts for one key the second is out of sight until the first is
gone.

Names that are set are more restricted than keys that are looked up: they are neither empty nor hold
an equals sign. A variable may be set to the empty text, which is not the same as not being set,
although most readers treat it alike.
-/

namespace KernelStats.Settings

def variableText (name value : Bytes) : Bytes := name ++ equalsSign :: value

/-- The value that the text of a variable has for a key, if it is a text for that key. -/
def valueIn? (key text : Bytes) : Option Bytes := (key ++ [equalsSign]).isPrefixOf? text

structure Environment where
  texts : List Bytes := []
  deriving DecidableEq, Repr

namespace Environment

def ofPairs (pairs : List (Bytes × Bytes)) : Environment :=
  { texts := pairs.map fun (name, value) => (variableText name value).upToNul }

def get? (e : Environment) (key : Bytes) : Option Bytes :=
  let key := key.upToNul
  if key = [] then none else e.texts.findSome? (valueIn? key)

def get (e : Environment) (key : Bytes) : Bytes := (e.get? key).getD []

def getOr (e : Environment) (key fallback : Bytes) : Bytes :=
  if e.get key = [] then fallback else e.get key

def isName (name : Bytes) : Bool := name ≠ [] && equalsSign ∉ name

/-- Sets a variable: its first text is replaced, or a new one goes to the end. -/
def set (e : Environment) (name value : Bytes) : Environment :=
  let (name, value) := (name.upToNul, value.upToNul)
  if isName name then
    match e.texts.findIdx? fun text => (valueIn? name text).isSome with
    | some index => { texts := e.texts.set index (variableText name value) }
    | none => { texts := e.texts ++ [variableText name value] }
  else e

def setDefault (e : Environment) (name value : Bytes) : Environment :=
  if (e.get? name).isSome then e else e.set name value

def unset (e : Environment) (name : Bytes) : Environment :=
  let name := name.upToNul
  if isName name then { texts := e.texts.filter fun text => (valueIn? name text).isNone } else e

/-- Takes over what a settings file assigns. What is set stays, so of several lines for one key the
first wins. -/
def load (e : Environment) (text : Bytes) : Environment :=
  (assignments text).foldl (fun e a => e.setDefault a.key a.value) e

def listing (e : Environment) : List Bytes :=
  e.texts.mergeSort fun s t => (compare s t).isLE

end Environment

end KernelStats.Settings
