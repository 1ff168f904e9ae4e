import ClassRuntime.ClassName.Form

namespace ClassRuntime
namespace ClassName

/-!
# Classes known to the runtime

The runtime itself asks for these classes by name.
-/

/-- The root of the hierarchy. -/
def object : ClassName := "java/lang/Object"

/-- The class of class mirrors. -/
def mirror : ClassName := "java/lang/Class"

/-- The class of loader handles. -/
def loaderHandle : ClassName := "java/lang/ClassLoader"

/-- The class of strings. -/
def string : ClassName := "java/lang/String"

/-- The class of constant pools. -/
def constantPool : ClassName := "sun/reflect/ConstantPool"

/-- The first interface of every array class. -/
def cloneable : ClassName := "java/lang/Cloneable"

/-- The second interface of every array class. -/
def serializable : ClassName := "java/io/Serializable"

end ClassName
end ClassRuntime
