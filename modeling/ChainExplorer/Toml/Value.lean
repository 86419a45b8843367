set_option autoImplicit false

namespace ChainExplorer.Toml

inductive Value where
  | string (text : String)
  | integer (value : Int)
  | float (value : Float)
  | boolean (value : Bool)
  | moment (text : String)
  | array (items : List Value)
  | table (members : List (String × Value))
deriving Repr, Inhabited

abbrev Document := List (String × Value)

end ChainExplorer.Toml
