import Bindings.Header.Basic

/-!
# Writing header metadata

The records of a header as data, members in the order of the fields.
-/

namespace Bindings

def ArraySize.toData : ArraySize → Data
  | .count n => .int n.toNat
  | .symbol name => .text name

def NativeEnumValue.toData (v : NativeEnumValue) : Data :=
  .table [("name", .text v.name), ("value", .ofOption id v.value)]

def NativeEnum.toData (e : NativeEnum) : Data :=
  .table [("name", .text e.name), ("values", .list (e.values.map NativeEnumValue.toData))]

def NativeParameter.toData (p : NativeParameter) : Data :=
  .table [("name", .text p.name), ("raw_type", .text p.rawType), ("pointer", .bool p.pointer),
    ("array", .bool p.array), ("array_size", .ofOption ArraySize.toData p.arraySize)]

def NativeFunction.toData (f : NativeFunction) : Data :=
  .table [("name", .text f.name), ("rtnType", .text f.returnType),
    ("parameters", .list (f.parameters.map NativeParameter.toData))]

def Header.toData (h : Header) : Data :=
  .table [("name", .text h.name), ("enums", .list (h.enums.map NativeEnum.toData)),
    ("functions", .list (h.functions.map NativeFunction.toData))]

end Bindings
