import Widgetry.Text.Combining

/-!
Joiners in a domain name. The two characters that ask for letters to be joined or not have no form
of their own, so they may stand only where they make a difference: behind a virama, and the one that
asks for no joining also between letters that would join.

## Sections

1. Letters that join.
2. Places of joiners.
-/

namespace Widgetry.Domain

open Text (Run)

/-! ## 1. Letters that join -/

/-- Runs of the letters that join on both sides. -/
def joiningRuns : List Run :=
  [⟨1568, 1568, 1⟩, ⟨1574, 1576, 2⟩, ⟨1578, 1582, 1⟩, ⟨1587, 1599, 1⟩, ⟨1601, 1607, 1⟩,
    ⟨1609, 1610, 1⟩, ⟨1646, 1647, 1⟩, ⟨1656, 1671, 1⟩, ⟨1690, 1727, 1⟩, ⟨1729, 1730, 1⟩,
    ⟨1740, 1742, 2⟩, ⟨1744, 1745, 1⟩, ⟨1786, 1788, 1⟩, ⟨1791, 1791, 1⟩, ⟨1810, 1812, 1⟩,
    ⟨1818, 1821, 1⟩, ⟨1823, 1831, 1⟩, ⟨1833, 1835, 2⟩, ⟨1837, 1838, 1⟩, ⟨1870, 1880, 1⟩,
    ⟨1884, 1898, 1⟩, ⟨1901, 1904, 1⟩, ⟨1906, 1906, 1⟩, ⟨1909, 1911, 1⟩, ⟨1914, 1919, 1⟩,
    ⟨1994, 2026, 1⟩, ⟨2113, 2117, 1⟩, ⟨2120, 2120, 1⟩, ⟨2122, 2131, 1⟩, ⟨2133, 2133, 1⟩,
    ⟨2144, 2144, 1⟩, ⟨2146, 2149, 1⟩, ⟨2152, 2152, 1⟩, ⟨2182, 2182, 1⟩, ⟨2185, 2189, 1⟩,
    ⟨2191, 2191, 1⟩, ⟨2208, 2217, 1⟩, ⟨2223, 2224, 1⟩, ⟨2227, 2232, 1⟩, ⟨2234, 2248, 1⟩,
    ⟨6151, 6151, 1⟩, ⟨6176, 6264, 1⟩, ⟨6279, 6312, 1⟩, ⟨6314, 6314, 1⟩, ⟨43072, 43121, 1⟩,
    ⟨68288, 68292, 1⟩, ⟨68307, 68310, 1⟩, ⟨68312, 68316, 1⟩, ⟨68318, 68320, 1⟩, ⟨68331, 68334, 1⟩,
    ⟨68480, 68482, 2⟩, ⟨68486, 68488, 1⟩, ⟨68490, 68491, 1⟩, ⟨68493, 68493, 1⟩, ⟨68496, 68496, 1⟩,
    ⟨68525, 68526, 1⟩, ⟨68865, 68897, 1⟩, ⟨68899, 68899, 1⟩, ⟨69315, 69316, 1⟩, ⟨69318, 69319, 1⟩,
    ⟨69424, 69426, 1⟩, ⟨69428, 69444, 1⟩, ⟨69457, 69459, 1⟩, ⟨69488, 69491, 1⟩, ⟨69494, 69505, 1⟩,
    ⟨69552, 69552, 1⟩, ⟨69554, 69555, 1⟩, ⟨69560, 69560, 1⟩, ⟨69563, 69564, 1⟩, ⟨69566, 69567, 1⟩,
    ⟨69569, 69569, 1⟩, ⟨69572, 69572, 1⟩, ⟨69578, 69578, 1⟩, ⟨125184, 125251, 1⟩]

/-- Runs of the letters that join only with what comes behind them. -/
def joiningBehindRuns : List Run :=
  [⟨43122, 43122, 1⟩, ⟨68301, 68301, 1⟩, ⟨68311, 68311, 1⟩, ⟨68864, 68864, 1⟩, ⟨69579, 69579, 1⟩]

/-- Runs of the letters that join only with what comes before them. -/
def joiningBeforeRuns : List Run :=
  [⟨1570, 1573, 1⟩, ⟨1575, 1577, 2⟩, ⟨1583, 1586, 1⟩, ⟨1608, 1608, 1⟩, ⟨1649, 1651, 1⟩,
    ⟨1653, 1655, 1⟩, ⟨1672, 1689, 1⟩, ⟨1728, 1728, 1⟩, ⟨1731, 1739, 1⟩, ⟨1741, 1743, 2⟩,
    ⟨1746, 1747, 1⟩, ⟨1749, 1749, 1⟩, ⟨1774, 1775, 1⟩, ⟨1808, 1808, 1⟩, ⟨1813, 1817, 1⟩,
    ⟨1822, 1822, 1⟩, ⟨1832, 1836, 2⟩, ⟨1839, 1839, 1⟩, ⟨1869, 1869, 1⟩, ⟨1881, 1883, 1⟩,
    ⟨1899, 1900, 1⟩, ⟨1905, 1905, 1⟩, ⟨1907, 1908, 1⟩, ⟨1912, 1913, 1⟩, ⟨2112, 2112, 1⟩,
    ⟨2118, 2119, 1⟩, ⟨2121, 2121, 1⟩, ⟨2132, 2132, 1⟩, ⟨2134, 2136, 1⟩, ⟨2151, 2151, 1⟩,
    ⟨2153, 2154, 1⟩, ⟨2160, 2178, 1⟩, ⟨2190, 2190, 1⟩, ⟨2218, 2220, 1⟩, ⟨2222, 2222, 1⟩,
    ⟨2225, 2226, 1⟩, ⟨2233, 2233, 1⟩, ⟨68293, 68295, 2⟩, ⟨68297, 68298, 1⟩, ⟨68302, 68306, 1⟩,
    ⟨68317, 68317, 1⟩, ⟨68321, 68321, 1⟩, ⟨68324, 68324, 1⟩, ⟨68335, 68335, 1⟩, ⟨68481, 68481, 1⟩,
    ⟨68483, 68485, 1⟩, ⟨68489, 68489, 1⟩, ⟨68492, 68492, 1⟩, ⟨68494, 68495, 1⟩, ⟨68497, 68497, 1⟩,
    ⟨68521, 68524, 1⟩, ⟨68898, 68898, 1⟩, ⟨69314, 69314, 1⟩, ⟨69427, 69427, 1⟩, ⟨69460, 69460, 1⟩,
    ⟨69492, 69493, 1⟩, ⟨69556, 69558, 1⟩, ⟨69561, 69562, 1⟩, ⟨69565, 69565, 1⟩, ⟨69570, 69571, 1⟩,
    ⟨69577, 69577, 1⟩]

/-- Whether letters join over a character. -/
def isTransparent (c : Char) : Bool := Text.isNonspacing c || c.toNat == 0x1E94B

/-- Whether a letter joins with what comes behind it. -/
def joinsBehind (c : Char) : Bool :=
  Text.inRuns joiningRuns c || Text.inRuns joiningBehindRuns c

/-- Whether a letter joins with what comes before it. -/
def joinsBefore (c : Char) : Bool :=
  Text.inRuns joiningRuns c || Text.inRuns joiningBeforeRuns c

/-- Whether the first character that is not transparent has a property. -/
def meets (p : Char → Bool) : List Char → Bool
  | [] => false
  | c :: cs => p c || (isTransparent c && meets p cs)

/-! ## 2. Places of joiners -/

/-- Whether the joiners of a text stand in their places; `before` holds the characters before it,
the last one first. -/
def joinersArePlaced (before : List Char) : List Char → Bool
  | [] => true
  | c :: cs =>
    (if c == '\u200d' then before.head?.any Text.isVirama
      else if c == '\u200c' then
        before.head?.any Text.isVirama || (meets joinsBehind before && meets joinsBefore cs)
      else true)
    && joinersArePlaced (c :: before) cs

end Widgetry.Domain
