/-!
# Names of pictures: digits and other signs

One entry a name, divided by `|`: the name and the code points of the picture in hexadecimal,
divided by blanks.
-/

namespace Archetype.Report.Picture

/-- the pictures whose names start with digits and other signs -/
def namesDigits : String :=
  "+1 1F44D|-1 1F44E|100 1F4AF|1234 1F522|1st_place_medal 1F947|2nd_place_medal 1F948|
  3rd_place_medal 1F949|8ball 1F3B1|__1 1F44E|åland_islands 1F1E6 1F1FD"

end Archetype.Report.Picture
