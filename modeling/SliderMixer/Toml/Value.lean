/-! # Values of a settings file

* `Toml.Value` is what a settings file can hold, as far as any setting can tell.
* `Toml.Value.fields?` are the fields of a value, and `Toml.Value.field?` looks one up.
-/

namespace SliderMixer.Toml

inductive Value where
  | text (s : String)
  | integer (n : Int)
  | boolean (b : Bool)
  | list (items : List Value)
  | table (fields : List (String × Value))
  /-- A date, a time, or both. -/
  | moment (text : String)
  /-- A value that no setting takes: a number with a fraction. -/
  | other
  deriving Inhabited

/-- The name of the one field that a date or a time has where fields are wanted. -/
def momentField : String := "$__toml_private_datetime"

namespace Value

/-- The fields of a value, if it has any. -/
def fields? : Value → Option (List (String × Value))
  | table fields => some fields
  | moment written => some [(momentField, text written)]
  | text _ | integer _ | boolean _ | list _ | other => none

def field? (fields : List (String × Value)) (name : String) : Option Value := fields.lookup name

end Value

end SliderMixer.Toml
