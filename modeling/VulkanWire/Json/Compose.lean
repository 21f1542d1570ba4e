import VulkanWire.Json.Value
import VulkanWire.Path

/-!
# Composing JSON documents

Documents of values that several others are made of.
-/

namespace VulkanWire

def Path.encode (p : Path) : Json := Json.text p.text

namespace Json

/-- The document of a value that may be missing. -/
def ofOption {α : Type} (write : α → Json) : Option α → Json
  | some a => write a
  | none => .null

def ofTexts (l : List String) : Json := .array (l.map text)

end Json

end VulkanWire
