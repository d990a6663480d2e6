import GpuCompute.Vulkan.Api

/-!
# Objects made of parts

Pipelines and command batches are made of several parts, one call after the other. The parts that are
there already are kept on a site: those of a blank object at first. When a part cannot be made, the
parts on the site are taken down, in the same way in which a whole object is destroyed.
-/

namespace GpuCompute.Vulkan

/-- An object that is being made, with the API that makes its parts. -/
structure Site (α : Type) where
  api : Api
  parts : α

namespace Site

variable {α : Type}

/-- Makes a part, with regard to the parts that are there, and puts it in its place. The place of a part
that cannot be made stays as it is. -/
def fill (put : α → Nat → α) (act : α → Attempt Api Nat) : Attempt (Site α) Unit := fun s =>
  match act s.parts s.api with
  | .ok handle api => .ok () { api, parts := put s.parts handle }
  | .error error api => .error error { s with api }

/-- Makes a call that cannot fail, with regard to the parts that are there. -/
def call (request : α → Request) : Attempt (Site α) Unit :=
  modify fun s => { s with api := s.api.call (request s.parts) }

end Site

/-- Makes an object out of a blank one. When a part cannot be made, those that are there are taken
down. -/
def assemble {α : Type} (blank : α) (takeDown : α → Api → Api) (build : Attempt (Site α) Unit) :
    Attempt Api α := fun api =>
  match build { api, parts := blank } with
  | .ok _ s => .ok s.parts s.api
  | .error error s => .error error (takeDown s.parts s.api)

end GpuCompute.Vulkan
