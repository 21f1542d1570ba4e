import VulkanWire.Proofs.Emitter.Parameters
import VulkanWire.Proofs.Generator.Hearing
import VulkanWire.Proofs.Gfxstream.Opcodes

/-!
# Guest and host agree on calls

In the gfxstream build the encoder and the decoder are in different modules, but
no restriction names their kinds: both are told of the same definitions, one by
one with the same registry. So for every command that is called on the guest,
the host takes from the stream what the guest has put there, and the guest waits
for an answer where the host sends one.

## Main results

* `fits_answers` — an encoder's and a decoder's answers to a command.
* `calls_fit` — every parameter, every command, and the two modules after a run.
-/

namespace VulkanWire

namespace Gfxstream

open Generator StandardEmitter

/-- Where the encoder of the build is bound. -/
def encoderBinding : Binding StandardEmitter := ⟨.encoder {}, "VkEncoder"⟩

/-- Where the decoder of the build is bound. -/
def decoderBinding : Binding StandardEmitter := ⟨.decoder, "VkDecoder"⟩

/-- Whatever an encoder has numbered so far, it fits a decoder. -/
theorem fits_answers {e e' : StandardEmitter} (he : Emitter.kind e = .encoder)
    (he' : Emitter.kind e' = .decoder) (r : Registry) (d : CommandDef) :
    Fits r d ((Cue.mk r (.element (.command d))).answer e)
      ((Cue.mk r (.element (.command d))).answer e') := by
  cases e <;> cases he
  cases e' <;> cases he'
  exact fits_command r d _

section Run

variable {o : GeneratorOptions} {extraFeatures : List String} {st : LayoutSettings} {s : Schema}
  {g : Generator StandardEmitter}

/-- Whatever is known, the encoder and the decoder put each parameter in one and the same class, and
what they say of a command fits together. In a run of the gfxstream build, the modules of both hold
their answers to the same definitions, one by one with the same registry, and the answers to every
command among them fit together. -/
theorem calls_fit (hg : assemble o (gate extraFeatures) (modules st) bindings = .ok g)
    (hs : s.validate = .ok ()) (disk : Disk) :
    (∀ r i p c,
      (Encoder.writeParameter r i p = (WireParam.mk c p.typeName p.name i).written ↔ c = .of r p) ∧
      (Decoder.readParameter r i p = (WireParam.mk c p.typeName p.name i).read ↔ c = .of r p)) ∧
    (∀ r d e, Fits r d (Encoder.respond r (.element (.command d)) e).1
      (Decoder.emit r (.element (.command d)))) ∧
    ∃ report g' disk', (g.run s : OnDisk _).run disk = ((.ok report, g'), disk') ∧
      g'.HoldsAnswers s (gate extraFeatures) encoderBinding ∧
      g'.HoldsAnswers s (gate extraFeatures) decoderBinding ∧
      s.introductions (gate extraFeatures) .encoder = s.introductions (gate extraFeatures) .decoder ∧
      ∃ pairs : List (Piece × Piece),
        pairs.map (·.1) =
          (s.answers (gate extraFeatures) encoderBinding.emitter).filter Piece.isElement ∧
        pairs.map (·.2) =
          (s.answers (gate extraFeatures) decoderBinding.emitter).filter Piece.isElement ∧
        List.Forall₂ (fun i p => p.1.cue? = some i.cue ∧ p.2.cue? = some i.cue ∧
            ∀ d, i.definition = .command d → Fits i.registry d p.1.text p.2.text)
          (s.introductions (gate extraFeatures) .encoder) pairs := by
  obtain ⟨report, g', disk', hrun, -, hheld⟩ :=
    exists_run_answers kind_after hg hs disk
  have hsame : s.introductions (gate extraFeatures) .encoder =
      s.introductions (gate extraFeatures) .decoder :=
    (unnamed_wire extraFeatures (by decide)).introductions_eq (unnamed_wire extraFeatures (by decide)) s
  have hkeeps : ∀ (kind : EmitterKind) (c : Cue) (e : StandardEmitter),
      Emitter.kind e = kind → Emitter.kind (c.after e) = kind :=
    fun kind c e he => (kind_after c e).trans he
  obtain ⟨pairs, hfst, hsnd, hpairs⟩ := exists_paired_answers (hkeeps .encoder) (hkeeps .decoder) rfl
    rfl (show Emitter.kind encoderBinding.emitter = .encoder from rfl)
    (show Emitter.kind decoderBinding.emitter = .decoder from rfl) hsame.symm
  refine ⟨fun r i p c => ⟨writeParameter_iff r i p c, readParameter_iff r i p c⟩, fits_command, report,
    g', disk', hrun, hheld encoderBinding (by decide), hheld decoderBinding (by decide), hsame, pairs,
    hfst, hsnd, hpairs.imp ?_⟩
  rintro i p ⟨⟨hcue, e, he, htext⟩, hcue', e', he', htext'⟩
  refine ⟨hcue, hcue', fun d hd => ?_⟩
  rw [htext, htext', Introduction.cue, hd]
  exact fits_answers he he' i.registry d

/-- The build generated for a command with a parameter of every class, into an empty file system. -/
theorem calls_fit_sample :
    (∀ r i p c,
      (Encoder.writeParameter r i p = (WireParam.mk c p.typeName p.name i).written ↔ c = .of r p) ∧
      (Decoder.readParameter r i p = (WireParam.mk c p.typeName p.name i).read ↔ c = .of r p)) ∧
    (∀ r d e, Fits r d (Encoder.respond r (.element (.command d)) e).1
      (Decoder.emit r (.element (.command d)))) ∧
    ∃ report g' disk',
      ((assembled { outputDir := "out" } (gate []) (modules {}) bindings).run fenceSchema :
        OnDisk _).run ⟨[], []⟩ = ((.ok report, g'), disk') ∧
      g'.HoldsAnswers fenceSchema (gate []) encoderBinding ∧
      g'.HoldsAnswers fenceSchema (gate []) decoderBinding ∧
      fenceSchema.introductions (gate []) .encoder = fenceSchema.introductions (gate []) .decoder ∧
      ∃ pairs : List (Piece × Piece),
        pairs.map (·.1) =
          (fenceSchema.answers (gate []) encoderBinding.emitter).filter Piece.isElement ∧
        pairs.map (·.2) =
          (fenceSchema.answers (gate []) decoderBinding.emitter).filter Piece.isElement ∧
        List.Forall₂ (fun i p => p.1.cue? = some i.cue ∧ p.2.cue? = some i.cue ∧
            ∀ d, i.definition = .command d → Fits i.registry d p.1.text p.2.text)
          (fenceSchema.introductions (gate []) .encoder) pairs :=
  calls_fit (assemble_eq_ok_iff.mpr ⟨sound_modules {}, rfl⟩) rfl ⟨[], []⟩

end Run

end Gfxstream

end VulkanWire
