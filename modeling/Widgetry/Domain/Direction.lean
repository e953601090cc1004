import Widgetry.Text.Combining

/-!
The direction in which the characters of a domain name are written. A name that holds characters
written leftward has labels of two kinds only, those written leftward and those written rightward,
so that it cannot be shown in a misleading order.

## Sections

1. Directions of characters.
2. Labels of one direction.
-/

namespace Widgetry.Domain

open Text (Run)

/-! ## 1. Directions of characters -/

/-- How a character takes part in the direction of a text: as a letter written rightward or
leftward, as a digit of one of two kinds, as a sign without a direction, or as a mark that takes the
direction of the character before it. -/
inductive Direction where
  | rightward
  | leftward
  | digit
  | leftwardDigit
  | neutral
  | mark
  deriving Repr, DecidableEq

/-- Runs of the scripts that are written leftward. -/
def leftwardRuns : List Run :=
  [⟨1424, 2303, 1⟩, ⟨64285, 65023, 1⟩, ⟨65136, 65279, 1⟩, ⟨67584, 69631, 1⟩, ⟨124928, 126975, 1⟩]

/-- Runs of the digits of the common kind. -/
def digitRuns : List Run :=
  [⟨48, 57, 1⟩, ⟨1776, 1785, 1⟩, ⟨66273, 66299, 1⟩]

/-- Runs of the digits that go with leftward scripts. -/
def leftwardDigitRuns : List Run :=
  [⟨1632, 1641, 1⟩, ⟨1643, 1644, 1⟩, ⟨68912, 68921, 1⟩, ⟨69216, 69246, 1⟩]

/-- Runs of the signs without a direction. -/
def neutralRuns : List Run :=
  [⟨33, 47, 1⟩, ⟨58, 64, 1⟩, ⟨91, 96, 1⟩, ⟨123, 127, 1⟩, ⟨161, 167, 1⟩, ⟨169, 169, 1⟩,
    ⟨171, 172, 1⟩, ⟨174, 174, 1⟩, ⟨176, 177, 1⟩, ⟨182, 183, 1⟩, ⟨187, 187, 1⟩, ⟨191, 191, 1⟩,
    ⟨215, 215, 1⟩, ⟨247, 247, 1⟩, ⟨697, 698, 1⟩, ⟨706, 719, 1⟩, ⟨722, 727, 1⟩, ⟨734, 735, 1⟩,
    ⟨741, 749, 1⟩, ⟨751, 767, 1⟩, ⟨885, 885, 1⟩, ⟨1014, 1014, 1⟩, ⟨1418, 1418, 1⟩, ⟨1421, 1423, 1⟩,
    ⟨1542, 1543, 1⟩, ⟨1545, 1546, 1⟩, ⟨1548, 1548, 1⟩, ⟨1550, 1551, 1⟩, ⟨1642, 1642, 1⟩,
    ⟨1758, 1758, 1⟩, ⟨1769, 1769, 1⟩, ⟨2038, 2041, 1⟩, ⟨2546, 2547, 1⟩, ⟨2555, 2555, 1⟩,
    ⟨2801, 2801, 1⟩, ⟨3059, 3066, 1⟩, ⟨3192, 3198, 1⟩, ⟨3647, 3647, 1⟩, ⟨3898, 3901, 1⟩,
    ⟨5008, 5017, 1⟩, ⟨5120, 5120, 1⟩, ⟨5787, 5788, 1⟩, ⟨6107, 6107, 1⟩, ⟨6128, 6137, 1⟩,
    ⟨6144, 6154, 1⟩, ⟨6464, 6464, 1⟩, ⟨6468, 6469, 1⟩, ⟨6622, 6655, 1⟩, ⟨8208, 8208, 1⟩,
    ⟨8210, 8214, 1⟩, ⟨8216, 8227, 1⟩, ⟨8231, 8231, 1⟩, ⟨8240, 8242, 1⟩, ⟨8245, 8245, 1⟩,
    ⟨8248, 8251, 1⟩, ⟨8253, 8253, 1⟩, ⟨8255, 8262, 1⟩, ⟨8266, 8278, 1⟩, ⟨8280, 8286, 1⟩,
    ⟨8352, 8359, 1⟩, ⟨8361, 8385, 1⟩, ⟨8452, 8452, 1⟩, ⟨8456, 8456, 1⟩, ⟨8468, 8468, 1⟩,
    ⟨8471, 8472, 1⟩, ⟨8478, 8479, 1⟩, ⟨8483, 8489, 2⟩, ⟨8494, 8494, 1⟩, ⟨8506, 8506, 1⟩,
    ⟨8513, 8516, 1⟩, ⟨8522, 8525, 1⟩, ⟨8586, 8587, 1⟩, ⟨8592, 8747, 1⟩, ⟨8750, 8750, 1⟩,
    ⟨8753, 9000, 1⟩, ⟨9003, 9013, 1⟩, ⟨9083, 9108, 1⟩, ⟨9110, 9257, 1⟩, ⟨9280, 9290, 1⟩,
    ⟨9451, 9899, 1⟩, ⟨9901, 10239, 1⟩, ⟨10496, 10763, 1⟩, ⟨10765, 10867, 1⟩, ⟨10871, 10971, 1⟩,
    ⟨10973, 11123, 1⟩, ⟨11126, 11263, 1⟩, ⟨11493, 11498, 1⟩, ⟨11513, 11519, 1⟩, ⟨11776, 11869, 1⟩,
    ⟨11904, 11929, 1⟩, ⟨11931, 11934, 1⟩, ⟨11936, 12018, 1⟩, ⟨12289, 12289, 1⟩, ⟨12291, 12292, 1⟩,
    ⟨12296, 12320, 1⟩, ⟨12336, 12336, 1⟩, ⟨12343, 12343, 1⟩, ⟨12349, 12351, 1⟩, ⟨12448, 12448, 1⟩,
    ⟨12539, 12539, 1⟩, ⟨12736, 12773, 1⟩, ⟨19904, 19967, 1⟩, ⟨42128, 42182, 1⟩, ⟨42509, 42511, 1⟩,
    ⟨42611, 42611, 1⟩, ⟨42622, 42623, 1⟩, ⟨42752, 42785, 1⟩, ⟨42888, 42888, 1⟩, ⟨43048, 43051, 1⟩,
    ⟨43064, 43065, 1⟩, ⟨43124, 43127, 1⟩, ⟨43882, 43883, 1⟩, ⟨64451, 64466, 1⟩, ⟨64830, 64847, 1⟩,
    ⟨64912, 64913, 1⟩, ⟨64968, 64975, 1⟩, ⟨65021, 65023, 1⟩, ⟨65093, 65094, 1⟩, ⟨65793, 65793, 1⟩,
    ⟨65856, 65932, 1⟩, ⟨65936, 65948, 1⟩, ⟨65952, 65952, 1⟩, ⟨67871, 67871, 1⟩, ⟨68409, 68415, 1⟩,
    ⟨68974, 68974, 1⟩, ⟨69328, 69336, 1⟩, ⟨69714, 69733, 1⟩, ⟨71264, 71276, 1⟩, ⟨73685, 73713, 1⟩,
    ⟨94178, 94178, 1⟩, ⟨117760, 117973, 1⟩, ⟨118010, 118012, 1⟩, ⟨118016, 118451, 1⟩,
    ⟨118458, 118480, 1⟩, ⟨118496, 118512, 1⟩, ⟨119273, 119274, 1⟩, ⟨119296, 119361, 1⟩,
    ⟨119365, 119365, 1⟩, ⟨119552, 119638, 1⟩, ⟨123647, 123647, 1⟩, ⟨126704, 126705, 1⟩,
    ⟨126976, 127019, 1⟩, ⟨127024, 127123, 1⟩, ⟨127136, 127150, 1⟩, ⟨127153, 127167, 1⟩,
    ⟨127169, 127183, 1⟩, ⟨127185, 127221, 1⟩, ⟨127243, 127247, 1⟩, ⟨127279, 127279, 1⟩,
    ⟨127341, 127343, 1⟩, ⟨127405, 127405, 1⟩, ⟨127584, 127589, 1⟩, ⟨127744, 128728, 1⟩,
    ⟨128732, 128748, 1⟩, ⟨128752, 128764, 1⟩, ⟨128768, 128985, 1⟩, ⟨128992, 129003, 1⟩,
    ⟨129008, 129008, 1⟩, ⟨129024, 129035, 1⟩, ⟨129040, 129095, 1⟩, ⟨129104, 129113, 1⟩,
    ⟨129120, 129159, 1⟩, ⟨129168, 129197, 1⟩, ⟨129200, 129211, 1⟩, ⟨129216, 129217, 1⟩,
    ⟨129232, 129240, 1⟩, ⟨129280, 129623, 1⟩, ⟨129632, 129645, 1⟩, ⟨129648, 129660, 1⟩,
    ⟨129664, 129674, 1⟩, ⟨129678, 129734, 1⟩, ⟨129736, 129736, 1⟩, ⟨129741, 129756, 1⟩,
    ⟨129759, 129770, 1⟩, ⟨129775, 129784, 1⟩, ⟨129792, 129938, 1⟩, ⟨129940, 130031, 1⟩,
    ⟨130042, 130042, 1⟩]

/-- The nonspacing marks with a direction of their own. -/
def directedMarks : List Nat := [0xCBF, 0xCC6, 0x11A07, 0x11A08, 0x11C3F]

/-- Whether a character takes the direction of the one before it. -/
def isUndirectedMark (c : Char) : Bool :=
  (Text.isNonspacing c && !directedMarks.contains c.toNat) || c.toNat == 0x1171E

/-- The direction of a character. -/
def direction (c : Char) : Direction :=
  if Text.inRuns digitRuns c then .digit
  else if Text.inRuns leftwardDigitRuns c then .leftwardDigit
  else if Text.inRuns neutralRuns c || c == '\u200c' || c == '\u200d' then .neutral
  else if isUndirectedMark c then .mark
  else if Text.inRuns leftwardRuns c then .leftward
  else .rightward

namespace Direction

/-- Whether a direction makes a name one that holds leftward text. -/
def isLeftward (d : Direction) : Bool := d == .leftward || d == .leftwardDigit

/-! ## 2. Labels of one direction -/

/-- The last direction but marks. -/
def last? (ds : List Direction) : Option Direction := ds.reverse.find? (· != .mark)

/-- Whether the directions are those of a label written leftward: it starts with a letter, ends with
a letter or a digit, and does not hold digits of both kinds. -/
def isLeftwardLabel (ds : List Direction) : Bool :=
  ds.head? == some .leftward && !ds.contains .rightward
  && (last? ds).any (fun d => d == .leftward || d == .digit || d == .leftwardDigit)
  && !(ds.contains .digit && ds.contains .leftwardDigit)

/-- Whether the directions are those of a label written rightward: it starts with a letter and ends
with a letter or a digit. -/
def isRightwardLabel (ds : List Direction) : Bool :=
  ds.head? == some .rightward && !ds.any isLeftward
  && (last? ds).any (fun d => d == .rightward || d == .digit)

end Direction

/-- Whether the labels of a name have one direction each, where that matters. -/
def hasClearDirections (labels : List (List Char)) : Bool :=
  let directions := labels.map (·.map direction)
  !directions.any (·.any Direction.isLeftward)
  || directions.all fun ds =>
    ds.isEmpty || Direction.isLeftwardLabel ds || Direction.isRightwardLabel ds

end Widgetry.Domain
