import AdvisorAI.Collectors.MarketRecovery
import AdvisorAI.Lib.JsonJournal

/-!
# Texts that break no line

The texts of digests and of decimals are plain.
-/

namespace AdvisorAI

open Lib Lib.Json

theorem unbrokenText_digest (d : Digest) : UnbrokenText d.text := by
  have hhex : ∀ c ∈ "0123456789abcdef".toList, isPlain c = true := by decide
  exact unbrokenText_of_plain fun c hc => hhex c (d.hexadecimal c hc)

theorem unbrokenText_decimal (d : Decimal) : UnbrokenText d.text := by
  have hmarks : ∀ c ∈ ['.', 'E', '+', '-'], isPlain c = true := by decide
  refine unbrokenText_of_plain ?_
  unfold Decimal.text
  rw [String.toList_ofList]
  intro c hc
  rcases List.mem_append.mp hc with hc | hc
  · split at hc
    · rw [List.mem_singleton.mp hc]
      decide
    · exact absurd hc List.not_mem_nil
  · rcases mem_scientific hc with hdigit | hmark
    · exact isPlain_of_digit hdigit
    · exact hmarks c hmark

end AdvisorAI
