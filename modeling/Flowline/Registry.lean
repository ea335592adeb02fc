import Flowline.Processor

/-!
Registries of node types. A type may be registered with a description alone, which is enough for
listing and validating but not for running.
-/

namespace Flowline

structure Registration (σ : Type) where
  descriptor : Descriptor
  processor : Option (Processor σ)

abbrev Registry (σ : Type) := Entries (Registration σ)

namespace Registry

variable {σ : Type}

def empty : Registry σ := []

/-- Registers a processor under the type in its description; a later registration of a type
replaces an earlier one. -/
def register (registry : Registry σ) (processor : Processor σ) : Registry σ :=
  Entries.insert registry processor.descriptor.type ⟨processor.descriptor, some processor⟩

def registerAll (registry : Registry σ) (processors : List (Processor σ)) : Registry σ :=
  processors.foldl register registry

def describe (registry : Registry σ) (descriptor : Descriptor) : Registry σ :=
  Entries.insert registry descriptor.type ⟨descriptor, none⟩

def descriptor? (registry : Registry σ) (type : String) : Option Descriptor :=
  (Entries.get? registry type).map Registration.descriptor

def processor? (registry : Registry σ) (type : String) : Option (Processor σ) :=
  (Entries.get? registry type).bind Registration.processor

def types (registry : Registry σ) : List String := Entries.keys registry

def descriptors (registry : Registry σ) : List Descriptor :=
  (Entries.values registry).map Registration.descriptor

def typesByCategory (registry : Registry σ) : Entries (List String) :=
  registry.descriptors.foldl
    (fun table descriptor => Entries.push table descriptor.category.name descriptor.type) []

def merge (registry other : Registry σ) : Registry σ := Entries.overlay registry other

end Registry

end Flowline
