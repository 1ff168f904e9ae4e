import ClassRuntime.Class.Definition

namespace ClassRuntime

/-!
# The boot path

The definitions that a runtime starts with unless it is given others.  None of
them has a static initializer.
-/

namespace BootPath

variable {ι : Type}

/-- The flags of a public class that cannot be extended. -/
def publicFinal : AccessFlags := .publicFlag ||| .finalFlag ||| .superFlag

/-- The flags of a public class without instances of its own. -/
def publicAbstract : AccessFlags := .publicFlag ||| .abstractFlag ||| .superFlag

/-- The basic classes of the language. -/
def language : List (ClassDefinition ι) :=
  [{ ClassDefinition.ordinary ClassName.object with superName := none },
    .interface ClassName.serializable,
    .interface ClassName.cloneable,
    .interface "java/lang/Comparable",
    .interface "java/lang/CharSequence",
    .interface "java/lang/Runnable",
    .interface "java/lang/reflect/Type",
    (ClassDefinition.interface "java/lang/reflect/GenericDeclaration").implementing
      ["java/lang/reflect/AnnotatedElement"],
    .interface "java/lang/reflect/AnnotatedElement",
    ((ClassDefinition.ordinary ClassName.mirror).flagged publicFinal).implementing
      [ClassName.serializable, "java/lang/reflect/GenericDeclaration",
        "java/lang/reflect/Type", "java/lang/reflect/AnnotatedElement"],
    (ClassDefinition.ordinary ClassName.loaderHandle).flagged publicAbstract,
    ((ClassDefinition.ordinary ClassName.string).flagged publicFinal).implementing
      [ClassName.serializable, "java/lang/Comparable", "java/lang/CharSequence"],
    ((ClassDefinition.ordinary "java/lang/Number").flagged publicAbstract).implementing
      [ClassName.serializable],
    (((ClassDefinition.ordinary "java/lang/Integer").flagged publicFinal).extending
      "java/lang/Number").implementing ["java/lang/Comparable"],
    (ClassDefinition.ordinary "java/lang/Thread").implementing ["java/lang/Runnable"],
    ((ClassDefinition.ordinary "java/lang/Enum").flagged publicAbstract).implementing
      ["java/lang/Comparable", ClassName.serializable],
    ((ClassDefinition.ordinary "java/lang/Thread$State").flagged
      (publicFinal ||| .enumFlag)).extending "java/lang/Enum",
    (ClassDefinition.ordinary "java/lang/Throwable").implementing [ClassName.serializable],
    (ClassDefinition.ordinary "java/lang/Error").extending "java/lang/Throwable",
    (ClassDefinition.ordinary "java/lang/LinkageError").extending "java/lang/Error",
    (ClassDefinition.ordinary "java/lang/NoClassDefFoundError").extending
      "java/lang/LinkageError"]

/-- The collection classes. -/
def collections : List (ClassDefinition ι) :=
  [.interface "java/util/Map",
    (ClassDefinition.interface "java/util/Map$Entry").flagged
      (.publicFlag ||| .staticFlag ||| .interfaceFlag ||| .abstractFlag),
    ((ClassDefinition.ordinary "java/util/AbstractMap").flagged publicAbstract).implementing
      ["java/util/Map"],
    ((ClassDefinition.ordinary "java/util/HashMap").extending
      "java/util/AbstractMap").implementing
      ["java/util/Map", ClassName.cloneable, ClassName.serializable],
    ((ClassDefinition.ordinary "java/util/HashMap$Node").flagged
      (.staticFlag ||| .superFlag)).implementing ["java/util/Map$Entry"],
    ((ClassDefinition.ordinary "java/util/HashMap$KeySet").flagged
      (.finalFlag ||| .superFlag)).extending "java/util/AbstractSet",
    ((ClassDefinition.ordinary "java/util/AbstractSet").flagged publicAbstract).implementing
      ["java/util/Set"],
    .interface "java/util/Set",
    ((ClassDefinition.ordinary "java/util/HashMap$1").flagged .superFlag).enclosedBy
      ⟨"java/util/HashMap", some ⟨"keySet", "()Ljava/util/Set;"⟩⟩]

/-- All definitions of the boot path. -/
def definitions : List (ClassDefinition ι) :=
  language ++ collections ++ [.ordinary ClassName.constantPool]

end BootPath
end ClassRuntime
