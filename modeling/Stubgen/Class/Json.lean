import Stubgen.Class.Basic
import Stubgen.Json.Decode

/-!
# Classes as JSON

A class is written as an object with a member for each part.  Decoding takes the
members of an object in alphabetical order and then asks for those that are not
there.  Three members may be left out: `array` when it is false, `fields` when
there are none, and `return_type` when there is none.
-/

namespace Stubgen

open Json (Misfit)

def TypeName.toJson (t : TypeName) : Json :=
  .object [("name".toList, .string t.name), ("array".toList, .bool t.array)]

def Signature.toJson (s : Signature) : Json :=
  .object [("raw".toList, .string s.raw),
    ("arg_types".toList, .array (s.argTypes.map TypeName.toJson)),
    ("return_type".toList, Json.ofOption TypeName.toJson s.returnType)]

def Method.toJson (m : Method) : Json :=
  .object [("name".toList, .string m.name),
    ("is_constructor".toList, .bool m.isConstructor),
      ("is_static".toList, .bool m.isStatic),
        ("is_property".toList, .bool m.isProperty),
    ("signature".toList, m.signature.toJson)]

def Field.toJson (f : Field) : Json :=
  .object [("name".toList, .string f.name), ("type_name".toList, f.type.toJson),
    ("is_static".toList, .bool f.isStatic)]

def Property.toJson (p : Property) : Json :=
  .object [("name".toList, .string p.name), ("read".toList, Json.ofNat p.read),
    ("write".toList, Json.ofNat p.write)]

def Class.toJson (c : Class) : Json :=
  .object [("name".toList, .string c.name),
    ("methods".toList, .array (c.methods.map Method.toJson)),
      ("fields".toList, .array (c.fields.map Field.toJson)),
    ("properties".toList, .array (c.properties.map Property.toJson))]

def TypeName.ofJson (v : Json) : Except Misfit TypeName := do
  v.expectObject "struct TypeName"
  let array ← v.field? "array" Json.toBool
  let name ← v.field? "name" Json.toText
  return ⟨← Json.require "name" name, array.getD false⟩

def Signature.ofJson (v : Json) : Except Misfit Signature := do
  v.expectObject "struct Signature"
  let argTypes ← v.field? "arg_types" (Json.toList TypeName.ofJson)
  let raw ← v.field? "raw" Json.toText
  let returnType ← v.field? "return_type" (Json.toOption TypeName.ofJson)
  return ⟨← Json.require "raw" raw, ← Json.require "arg_types" argTypes,
    returnType.join⟩

def Method.ofJson (v : Json) : Except Misfit Method := do
  v.expectObject "struct Method"
  let isConstructor ← v.field? "is_constructor" Json.toBool
  let isProperty ← v.field? "is_property" Json.toBool
  let isStatic ← v.field? "is_static" Json.toBool
  let name ← v.field? "name" Json.toText
  let signature ← v.field? "signature" Signature.ofJson
  return ⟨← Json.require "name" name,
    ← Json.require "is_constructor" isConstructor,
    ← Json.require "is_static" isStatic,
    ← Json.require "is_property" isProperty,
    ← Json.require "signature" signature⟩

def Field.ofJson (v : Json) : Except Misfit Field := do
  v.expectObject "struct Field"
  let isStatic ← v.field? "is_static" Json.toBool
  let name ← v.field? "name" Json.toText
  let type ← v.field? "type_name" TypeName.ofJson
  return ⟨← Json.require "name" name, ← Json.require "type_name" type,
    ← Json.require "is_static" isStatic⟩

def Property.ofJson (v : Json) : Except Misfit Property := do
  v.expectObject "struct Property"
  let name ← v.field? "name" Json.toText
  let read ← v.field? "read" Json.toNat
  let write ← v.field? "write" Json.toNat
  return ⟨← Json.require "name" name, ← Json.require "read" read,
    ← Json.require "write" write⟩

def Class.ofJson (v : Json) : Except Misfit Class := do
  v.expectObject "struct Class"
  let fields ← v.field? "fields" (Json.toList Field.ofJson)
  let methods ← v.field? "methods" (Json.toList Method.ofJson)
  let name ← v.field? "name" Json.toText
  let properties ← v.field? "properties" (Json.toList Property.ofJson)
  return ⟨← Json.require "name" name, ← Json.require "methods" methods,
    fields.getD [], ← Json.require "properties" properties⟩

end Stubgen
