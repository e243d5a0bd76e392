import Bindings.BindingDocument.Basic
import Bindings.Header.Writer
import Bindings.Json.Printer

/-!
# Writing binding documents

The records of a binding document as data, members in the order of the fields, and the text of its file.
-/

namespace Bindings

def HostEnumValue.toData (v : HostEnumValue) : Data :=
  .table [("name", .text v.name), ("x_name", .text v.hostName), ("value", .ofOption id v.value)]

def HostEnum.toData (e : HostEnum) : Data :=
  .table [("name", .text e.name), ("values", .list (e.values.map HostEnumValue.toData))]

def BoundParameter.toData (p : BoundParameter) : Data :=
  .table [("name", .text p.name), ("raw_type", .text p.rawType), ("kind", .text p.direction.text),
    ("pointer", .bool p.pointer), ("array", .bool p.array), ("array_size", .ofOption ArraySize.toData p.arraySize),
    ("default", .ofOption .text p.default), ("x_type", .text p.type), ("x_callname", .text p.callName),
    ("x_pyann_type", .text p.hostType), ("x_pyann", .text p.signature), ("x_pyarg", .text p.argument),
    ("x_decl", .text p.declaration)]

def ReturnValue.toData (v : ReturnValue) : Data :=
  .table [("name", .text v.name), ("raw_type", .text v.rawType), ("x_type", .text v.type),
    ("x_pyann_type", .text v.hostType)]

def BoundFunction.toData (f : BoundFunction) : Data :=
  .table [("name", .text f.name), ("x_name", .text f.exposedName), ("rtn_type", .text f.returnType),
    ("instance_param", .ofOption NativeParameter.toData f.instanceParameter),
    ("params", .list (f.parameters.map BoundParameter.toData)),
    ("x_in_params", .list (f.inputs.map BoundParameter.toData)),
    ("x_out_params", .list (f.outputs.map BoundParameter.toData)),
    ("x_rets", .list (f.returns.map ReturnValue.toData)),
    ("x_param_checks", .list (f.inputChecks.map .text)), ("x_return_checks", .list (f.returnChecks.map .text)),
    ("x_callstart", .text f.callStart), ("x_wrap_return", .text f.returnStatement),
    ("x_wrap_return_type", .text f.wrapperType), ("x_pyann_ret", .text f.returnHostType),
    ("x_temprefs", .text f.temporaries), ("args_comma", .text f.comma), ("internal", .bool f.internal),
    ("rename", .ofOption .text f.rename), ("has_code", .bool f.hasCode), ("code", .ofOption .text f.code),
    ("get", .ofOption id f.getter), ("set", .ofOption id f.setter)]

def BindingDocument.toData (d : BindingDocument) : Data :=
  .table [("header", .text d.header), ("module_name", .ofOption .text d.moduleName),
    ("enums", .list (d.enums.map HostEnum.toData)), ("functions", .list (d.functions.map BoundFunction.toData))]

/-- The text of a document's file. -/
def BindingDocument.text (d : BindingDocument) : String :=
  Json.ofData d.toData

end Bindings
