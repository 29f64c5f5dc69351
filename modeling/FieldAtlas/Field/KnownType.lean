import FieldAtlas.Field.TypeRef

/-!
# Known types

The types that a field can be resolved to, with their full names.
-/

namespace FieldAtlas

inductive KnownType where
  | i64
  | i32
  | u8
  | u64
  | f64
  | bool
  | char
  | unit
  /-- Text as such. -/
  | str
  /-- Text that lives for the whole run. -/
  | staticStr
  /-- Owned text. -/
  | string
  | vec (item : KnownType)
  | option (item : KnownType)
  deriving DecidableEq

namespace KnownType

def fullName : KnownType → String
  | i64 => "i64"
  | i32 => "i32"
  | u8 => "u8"
  | u64 => "u64"
  | f64 => "f64"
  | bool => "bool"
  | char => "char"
  | unit => "()"
  | str => "str"
  | staticStr => "&str"
  | string => "alloc::string::String"
  | vec item => "alloc::vec::Vec<" ++ item.fullName ++ ">"
  | option item => "core::option::Option<" ++ item.fullName ++ ">"

def ref (t : KnownType) : TypeRef := .resolved t.fullName

end KnownType

end FieldAtlas
