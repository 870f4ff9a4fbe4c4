import AirQuality.Time.Iso
import AirQuality.Time.Stamp
import AirQuality.Time.Zone
import AirQuality.Text.Basic

/-!
# Times of the feed

The feed gives times as stamps on a local clock, or in ISO 8601. In the latter `Z` stands
for the offset zero wherever it occurs.

* `readFeed`: a text, read and brought to UTC
-/

namespace AirQuality.Time

/-- The text with every `Z` written as an offset. -/
def spellOutZulu (t : Text) : Text :=
  t.substitute fun c => if c = 'Z' then "+00:00".toList else [c]

/-- The moment of a text, at UTC: a stamp, or else ISO 8601. The zone is that of the clock where the
text gives no offset, and `none` if it is not known. -/
def readFeed (text : Text) (zone : Option Zone) : Except Fault Moment := do
  let t := text.stripped
  let moment ← match t.string?.bind Stamp.wall? with
    | some w => pure ⟨w, none⟩
    | none => orFault (Iso.moment? (spellOutZulu t)) .badValue
  toUtc zone moment

end AirQuality.Time
