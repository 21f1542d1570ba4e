import VulkanWire.Emitter.Basic
import VulkanWire.Output.Spec

/-!
# Preambles and postambles

What stands before and after the generated text of a module's two files: the
licence, a banner that says how to generate the file again, includes and the
namespace block. The texts are data that a run may replace; `Preambles.ofSpec`
combines them with what a module declares.
-/

namespace VulkanWire

/-- The texts that preambles are made of. -/
structure PreambleTemplates where
  copyright : String
  /-- The command that the banner names. -/
  commandLine : String
  namespaceBegin : String
  namespaceEnd : String
  apiHeaders : String
deriving DecidableEq, Repr

namespace PreambleTemplates

/-- The licence text of generated files. -/
def defaultCopyright : String := lines [
  "// Copyright (C) 2018 The Android Open Source Project",
  "// Copyright (C) 2018 Google Inc.",
  "//",
  "// Licensed under the Apache License, Version 2.0 (the \"License\");",
  "// you may not use this file except in compliance with the License.",
  "// You may obtain a copy of the License at",
  "//",
  "// http://www.apache.org/licenses/LICENSE-2.0",
  "//",
  "// Unless required by applicable law or agreed to in writing, software",
  "// distributed under the License is distributed on an \"AS IS\" BASIS,",
  "// WITHOUT WARRANTIES OR CONDITIONS OF ANY KIND, either express or implied.",
  "// See the License for the specific language governing permissions and",
  "// limitations under the License."]

/-- The texts of generated files, with the command that the banner names. -/
def ofCommand (commandLine : String) : PreambleTemplates where
  copyright := defaultCopyright
  commandLine := commandLine
  namespaceBegin := lines ["", "namespace gfxstream \x7b", "namespace vk \x7b", ""]
  namespaceEnd := lines ["", "\x7d  // namespace vk", "\x7d  // namespace gfxstream"]
  apiHeaders := lines ["#include <vulkan/vulkan.h>", "#include \"vulkan_gfxstream.h\""]

/-- The texts when nothing else is said. -/
def default : PreambleTemplates := ofCommand "vk-cereal generate"

instance : Inhabited PreambleTemplates := ⟨default⟩

def banner (t : PreambleTemplates) (basename artifact : String) : String := lines [
  "",
  s!"// Autogenerated module {basename}",
  "//",
  s!"// ({artifact}) generated by {t.commandLine}",
  "//",
  "// Please do not modify directly;",
  "// re-run the generator with the command above,",
  "// or regenerate a single module by setting",
  "// ANDROID_EMU_VK_CEREAL_SUPPRESS=<module name>.",
  "//"]

end PreambleTemplates

/-- What stands before and after the generated text of a module's files. -/
structure Preambles where
  headerPreamble : String
  headerPostamble : String
  implPreamble : String
  implPostamble : String
deriving DecidableEq, Repr

namespace Preambles

def ofSpec (s : ModuleSpec) (t : PreambleTemplates) : Preambles :=
  let opening := if s.useNamespace then t.namespaceBegin else ""
  let closing := if s.useNamespace then t.namespaceEnd else ""
  let apiHeaders := if s.suppressApiHeaders then "" else t.apiHeaders
  let ownHeader := if s.implOnly then "" else s!"\n#include \"{s.basename}.h\""
  { headerPreamble := t.copyright ++ t.banner s.basename "header" ++ "#pragma once\n" ++
      apiHeaders ++ s.extraHeader ++ "\n" ++ opening
    headerPostamble := closing
    implPreamble := t.copyright ++ t.banner s.basename "impl" ++ ownHeader ++ s.extraImpl ++
      opening
    implPostamble := closing }

end Preambles

end VulkanWire
