import EmbeddedTests.Text
/-!
What the characters of identifiers are made of, in version 14 of the Unicode standard. A row is for
characters one after the other that have the same number of parts: it gives the first character,
the number of parts, and the parts of all its characters in a row.
-/
namespace EmbeddedTests.Text

structure PartsRow where
  first : Nat
  width : Nat
  parts : List Nat

def partsIn? : List PartsRow → Nat → Option (List Nat)
  | [], _ => none
  | row :: later, n =>
    if n < row.first then none
    else
      let parts := (row.parts.drop ((n - row.first) * row.width)).take row.width
      if parts.isEmpty then partsIn? later n else some parts

/-- The character of a row with the parts; `n` is the first character that is left. -/
def wholeFrom? (width : Nat) (parts : List Nat) : Nat → Nat → List Nat → Option Nat
  | 0, _, _ => none
  | fuel + 1, n, left =>
    if left.isEmpty then none
    else if left.take width = parts then some n
    else wholeFrom? width parts fuel (n + 1) (left.drop width)

def wholeOf? (rows : List PartsRow) (parts : List Nat) : Option Nat :=
  rows.findSome? fun row =>
    if row.width = parts.length then wholeFrom? row.width parts row.parts.length row.first row.parts
    else none

def composites : List PartsRow := [
  ⟨192, 2, [65, 768, 65, 769, 65, 770, 65, 771, 65, 776, 65, 778]⟩, ⟨199, 2, [67, 807, 69, 768, 69,
  769, 69, 770, 69, 776, 73, 768, 73, 769, 73, 770, 73, 776]⟩, ⟨209, 2, [78, 771, 79, 768, 79, 769,
  79, 770, 79, 771, 79, 776]⟩, ⟨217, 2, [85, 768, 85, 769, 85, 770, 85, 776, 89, 769]⟩, ⟨224, 2,
  [97, 768, 97, 769, 97, 770, 97, 771, 97, 776, 97, 778]⟩, ⟨231, 2, [99, 807, 101, 768, 101, 769,
  101, 770, 101, 776, 105, 768, 105, 769, 105, 770, 105, 776]⟩, ⟨241, 2, [110, 771, 111, 768, 111,
  769, 111, 770, 111, 771, 111, 776]⟩, ⟨249, 2, [117, 768, 117, 769, 117, 770, 117, 776, 121, 769]⟩,
  ⟨255, 2, [121, 776, 65, 772, 97, 772, 65, 774, 97, 774, 65, 808, 97, 808, 67, 769, 99, 769, 67,
  770, 99, 770, 67, 775, 99, 775, 67, 780, 99, 780, 68, 780, 100, 780]⟩, ⟨274, 2, [69, 772, 101,
  772, 69, 774, 101, 774, 69, 775, 101, 775, 69, 808, 101, 808, 69, 780, 101, 780, 71, 770, 103,
  770, 71, 774, 103, 774, 71, 775, 103, 775, 71, 807, 103, 807, 72, 770, 104, 770]⟩, ⟨296, 2, [73,
  771, 105, 771, 73, 772, 105, 772, 73, 774, 105, 774, 73, 808, 105, 808, 73, 775]⟩, ⟨308, 2, [74,
  770, 106, 770, 75, 807, 107, 807]⟩, ⟨313, 2, [76, 769, 108, 769, 76, 807, 108, 807, 76, 780, 108,
  780]⟩, ⟨323, 2, [78, 769, 110, 769, 78, 807, 110, 807, 78, 780, 110, 780]⟩, ⟨332, 2, [79, 772,
  111, 772, 79, 774, 111, 774, 79, 779, 111, 779]⟩, ⟨340, 2, [82, 769, 114, 769, 82, 807, 114, 807,
  82, 780, 114, 780, 83, 769, 115, 769, 83, 770, 115, 770, 83, 807, 115, 807, 83, 780, 115, 780, 84,
  807, 116, 807, 84, 780, 116, 780]⟩, ⟨360, 2, [85, 771, 117, 771, 85, 772, 117, 772, 85, 774, 117,
  774, 85, 778, 117, 778, 85, 779, 117, 779, 85, 808, 117, 808, 87, 770, 119, 770, 89, 770, 121,
  770, 89, 776, 90, 769, 122, 769, 90, 775, 122, 775, 90, 780, 122, 780]⟩, ⟨416, 2, [79, 795, 111,
  795]⟩, ⟨431, 2, [85, 795, 117, 795]⟩, ⟨461, 2, [65, 780, 97, 780, 73, 780, 105, 780, 79, 780, 111,
  780, 85, 780, 117, 780]⟩, ⟨469, 3, [85, 776, 772, 117, 776, 772, 85, 776, 769, 117, 776, 769, 85,
  776, 780, 117, 776, 780, 85, 776, 768, 117, 776, 768]⟩, ⟨478, 3, [65, 776, 772, 97, 776, 772, 65,
  775, 772, 97, 775, 772]⟩, ⟨482, 2, [198, 772, 230, 772]⟩, ⟨486, 2, [71, 780, 103, 780, 75, 780,
  107, 780, 79, 808, 111, 808]⟩, ⟨492, 3, [79, 808, 772, 111, 808, 772]⟩, ⟨494, 2, [439, 780, 658,
  780, 106, 780]⟩, ⟨500, 2, [71, 769, 103, 769]⟩, ⟨504, 2, [78, 768, 110, 768]⟩, ⟨506, 3, [65, 778,
  769, 97, 778, 769]⟩, ⟨508, 2, [198, 769, 230, 769, 216, 769, 248, 769, 65, 783, 97, 783, 65, 785,
  97, 785, 69, 783, 101, 783, 69, 785, 101, 785, 73, 783, 105, 783, 73, 785, 105, 785, 79, 783, 111,
  783, 79, 785, 111, 785, 82, 783, 114, 783, 82, 785, 114, 785, 85, 783, 117, 783, 85, 785, 117,
  785, 83, 806, 115, 806, 84, 806, 116, 806]⟩, ⟨542, 2, [72, 780, 104, 780]⟩, ⟨550, 2, [65, 775, 97,
  775, 69, 807, 101, 807]⟩, ⟨554, 3, [79, 776, 772, 111, 776, 772, 79, 771, 772, 111, 771, 772]⟩,
  ⟨558, 2, [79, 775, 111, 775]⟩, ⟨560, 3, [79, 775, 772, 111, 775, 772]⟩, ⟨562, 2, [89, 772, 121,
  772]⟩, ⟨902, 2, [913, 769]⟩, ⟨904, 2, [917, 769, 919, 769, 921, 769]⟩, ⟨908, 2, [927, 769]⟩, ⟨910,
  2, [933, 769, 937, 769]⟩, ⟨912, 3, [953, 776, 769]⟩, ⟨938, 2, [921, 776, 933, 776, 945, 769, 949,
  769, 951, 769, 953, 769]⟩, ⟨944, 3, [965, 776, 769]⟩, ⟨970, 2, [953, 776, 965, 776, 959, 769, 965,
  769, 969, 769]⟩, ⟨1024, 2, [1045, 768, 1045, 776]⟩, ⟨1027, 2, [1043, 769]⟩, ⟨1031, 2, [1030,
  776]⟩, ⟨1036, 2, [1050, 769, 1048, 768, 1059, 774]⟩, ⟨1049, 2, [1048, 774]⟩, ⟨1081, 2, [1080,
  774]⟩, ⟨1104, 2, [1077, 768, 1077, 776]⟩, ⟨1107, 2, [1075, 769]⟩, ⟨1111, 2, [1110, 776]⟩, ⟨1116,
  2, [1082, 769, 1080, 768, 1091, 774]⟩, ⟨1142, 2, [1140, 783, 1141, 783]⟩, ⟨1217, 2, [1046, 774,
  1078, 774]⟩, ⟨1232, 2, [1040, 774, 1072, 774, 1040, 776, 1072, 776]⟩, ⟨1238, 2, [1045, 774, 1077,
  774]⟩, ⟨1242, 2, [1240, 776, 1241, 776, 1046, 776, 1078, 776, 1047, 776, 1079, 776]⟩, ⟨1250, 2,
  [1048, 772, 1080, 772, 1048, 776, 1080, 776, 1054, 776, 1086, 776]⟩, ⟨1258, 2, [1256, 776, 1257,
  776, 1069, 776, 1101, 776, 1059, 772, 1091, 772, 1059, 776, 1091, 776, 1059, 779, 1091, 779, 1063,
  776, 1095, 776]⟩, ⟨1272, 2, [1067, 776, 1099, 776]⟩, ⟨1570, 2, [1575, 1619, 1575, 1620, 1608,
  1620, 1575, 1621, 1610, 1620]⟩, ⟨1728, 2, [1749, 1620]⟩, ⟨1730, 2, [1729, 1620]⟩, ⟨1747, 2, [1746,
  1620]⟩, ⟨2345, 2, [2344, 2364]⟩, ⟨2353, 2, [2352, 2364]⟩, ⟨2356, 2, [2355, 2364]⟩, ⟨2507, 2,
  [2503, 2494, 2503, 2519]⟩, ⟨2888, 2, [2887, 2902]⟩, ⟨2891, 2, [2887, 2878, 2887, 2903]⟩, ⟨2964, 2,
  [2962, 3031]⟩, ⟨3018, 2, [3014, 3006, 3015, 3006, 3014, 3031]⟩, ⟨3144, 2, [3142, 3158]⟩, ⟨3264, 2,
  [3263, 3285]⟩, ⟨3271, 2, [3270, 3285, 3270, 3286]⟩, ⟨3274, 2, [3270, 3266]⟩, ⟨3275, 3, [3270,
  3266, 3285]⟩, ⟨3402, 2, [3398, 3390, 3399, 3390, 3398, 3415]⟩, ⟨3546, 2, [3545, 3530]⟩, ⟨3548, 2,
  [3545, 3535]⟩, ⟨3549, 3, [3545, 3535, 3530]⟩, ⟨3550, 2, [3545, 3551]⟩, ⟨4134, 2, [4133, 4142]⟩,
  ⟨6918, 2, [6917, 6965]⟩, ⟨6920, 2, [6919, 6965]⟩, ⟨6922, 2, [6921, 6965]⟩, ⟨6924, 2, [6923,
  6965]⟩, ⟨6926, 2, [6925, 6965]⟩, ⟨6930, 2, [6929, 6965]⟩, ⟨6971, 2, [6970, 6965]⟩, ⟨6973, 2,
  [6972, 6965]⟩, ⟨6976, 2, [6974, 6965, 6975, 6965]⟩, ⟨6979, 2, [6978, 6965]⟩, ⟨7680, 2, [65, 805,
  97, 805, 66, 775, 98, 775, 66, 803, 98, 803, 66, 817, 98, 817]⟩, ⟨7688, 3, [67, 807, 769, 99, 807,
  769]⟩, ⟨7690, 2, [68, 775, 100, 775, 68, 803, 100, 803, 68, 817, 100, 817, 68, 807, 100, 807, 68,
  813, 100, 813]⟩, ⟨7700, 3, [69, 772, 768, 101, 772, 768, 69, 772, 769, 101, 772, 769]⟩, ⟨7704, 2,
  [69, 813, 101, 813, 69, 816, 101, 816]⟩, ⟨7708, 3, [69, 807, 774, 101, 807, 774]⟩, ⟨7710, 2, [70,
  775, 102, 775, 71, 772, 103, 772, 72, 775, 104, 775, 72, 803, 104, 803, 72, 776, 104, 776, 72,
  807, 104, 807, 72, 814, 104, 814, 73, 816, 105, 816]⟩, ⟨7726, 3, [73, 776, 769, 105, 776, 769]⟩,
  ⟨7728, 2, [75, 769, 107, 769, 75, 803, 107, 803, 75, 817, 107, 817, 76, 803, 108, 803]⟩, ⟨7736, 3,
  [76, 803, 772, 108, 803, 772]⟩, ⟨7738, 2, [76, 817, 108, 817, 76, 813, 108, 813, 77, 769, 109,
  769, 77, 775, 109, 775, 77, 803, 109, 803, 78, 775, 110, 775, 78, 803, 110, 803, 78, 817, 110,
  817, 78, 813, 110, 813]⟩, ⟨7756, 3, [79, 771, 769, 111, 771, 769, 79, 771, 776, 111, 771, 776, 79,
  772, 768, 111, 772, 768, 79, 772, 769, 111, 772, 769]⟩, ⟨7764, 2, [80, 769, 112, 769, 80, 775,
  112, 775, 82, 775, 114, 775, 82, 803, 114, 803]⟩, ⟨7772, 3, [82, 803, 772, 114, 803, 772]⟩, ⟨7774,
  2, [82, 817, 114, 817, 83, 775, 115, 775, 83, 803, 115, 803]⟩, ⟨7780, 3, [83, 769, 775, 115, 769,
  775, 83, 780, 775, 115, 780, 775, 83, 803, 775, 115, 803, 775]⟩, ⟨7786, 2, [84, 775, 116, 775, 84,
  803, 116, 803, 84, 817, 116, 817, 84, 813, 116, 813, 85, 804, 117, 804, 85, 816, 117, 816, 85,
  813, 117, 813]⟩, ⟨7800, 3, [85, 771, 769, 117, 771, 769, 85, 772, 776, 117, 772, 776]⟩, ⟨7804, 2,
  [86, 771, 118, 771, 86, 803, 118, 803, 87, 768, 119, 768, 87, 769, 119, 769, 87, 776, 119, 776,
  87, 775, 119, 775, 87, 803, 119, 803, 88, 775, 120, 775, 88, 776, 120, 776, 89, 775, 121, 775, 90,
  770, 122, 770, 90, 803, 122, 803, 90, 817, 122, 817, 104, 817, 116, 776, 119, 778, 121, 778]⟩,
  ⟨7840, 2, [65, 803, 97, 803, 65, 777, 97, 777]⟩, ⟨7844, 3, [65, 770, 769, 97, 770, 769, 65, 770,
  768, 97, 770, 768, 65, 770, 777, 97, 770, 777, 65, 770, 771, 97, 770, 771, 65, 803, 770, 97, 803,
  770, 65, 774, 769, 97, 774, 769, 65, 774, 768, 97, 774, 768, 65, 774, 777, 97, 774, 777, 65, 774,
  771, 97, 774, 771, 65, 803, 774, 97, 803, 774]⟩, ⟨7864, 2, [69, 803, 101, 803, 69, 777, 101, 777,
  69, 771, 101, 771]⟩, ⟨7870, 3, [69, 770, 769, 101, 770, 769, 69, 770, 768, 101, 770, 768, 69, 770,
  777, 101, 770, 777, 69, 770, 771, 101, 770, 771, 69, 803, 770, 101, 803, 770]⟩, ⟨7880, 2, [73,
  777, 105, 777, 73, 803, 105, 803, 79, 803, 111, 803, 79, 777, 111, 777]⟩, ⟨7888, 3, [79, 770, 769,
  111, 770, 769, 79, 770, 768, 111, 770, 768, 79, 770, 777, 111, 770, 777, 79, 770, 771, 111, 770,
  771, 79, 803, 770, 111, 803, 770, 79, 795, 769, 111, 795, 769, 79, 795, 768, 111, 795, 768, 79,
  795, 777, 111, 795, 777, 79, 795, 771, 111, 795, 771, 79, 795, 803, 111, 795, 803]⟩, ⟨7908, 2,
  [85, 803, 117, 803, 85, 777, 117, 777]⟩, ⟨7912, 3, [85, 795, 769, 117, 795, 769, 85, 795, 768,
  117, 795, 768, 85, 795, 777, 117, 795, 777, 85, 795, 771, 117, 795, 771, 85, 795, 803, 117, 795,
  803]⟩, ⟨7922, 2, [89, 768, 121, 768, 89, 803, 121, 803, 89, 777, 121, 777, 89, 771, 121, 771]⟩,
  ⟨7936, 2, [945, 787, 945, 788]⟩, ⟨7938, 3, [945, 787, 768, 945, 788, 768, 945, 787, 769, 945, 788,
  769, 945, 787, 834, 945, 788, 834]⟩, ⟨7944, 2, [913, 787, 913, 788]⟩, ⟨7946, 3, [913, 787, 768,
  913, 788, 768, 913, 787, 769, 913, 788, 769, 913, 787, 834, 913, 788, 834]⟩, ⟨7952, 2, [949, 787,
  949, 788]⟩, ⟨7954, 3, [949, 787, 768, 949, 788, 768, 949, 787, 769, 949, 788, 769]⟩, ⟨7960, 2,
  [917, 787, 917, 788]⟩, ⟨7962, 3, [917, 787, 768, 917, 788, 768, 917, 787, 769, 917, 788, 769]⟩,
  ⟨7968, 2, [951, 787, 951, 788]⟩, ⟨7970, 3, [951, 787, 768, 951, 788, 768, 951, 787, 769, 951, 788,
  769, 951, 787, 834, 951, 788, 834]⟩, ⟨7976, 2, [919, 787, 919, 788]⟩, ⟨7978, 3, [919, 787, 768,
  919, 788, 768, 919, 787, 769, 919, 788, 769, 919, 787, 834, 919, 788, 834]⟩, ⟨7984, 2, [953, 787,
  953, 788]⟩, ⟨7986, 3, [953, 787, 768, 953, 788, 768, 953, 787, 769, 953, 788, 769, 953, 787, 834,
  953, 788, 834]⟩, ⟨7992, 2, [921, 787, 921, 788]⟩, ⟨7994, 3, [921, 787, 768, 921, 788, 768, 921,
  787, 769, 921, 788, 769, 921, 787, 834, 921, 788, 834]⟩, ⟨8000, 2, [959, 787, 959, 788]⟩, ⟨8002,
  3, [959, 787, 768, 959, 788, 768, 959, 787, 769, 959, 788, 769]⟩, ⟨8008, 2, [927, 787, 927, 788]⟩,
  ⟨8010, 3, [927, 787, 768, 927, 788, 768, 927, 787, 769, 927, 788, 769]⟩, ⟨8016, 2, [965, 787, 965,
  788]⟩, ⟨8018, 3, [965, 787, 768, 965, 788, 768, 965, 787, 769, 965, 788, 769, 965, 787, 834, 965,
  788, 834]⟩, ⟨8025, 2, [933, 788]⟩, ⟨8027, 3, [933, 788, 768]⟩, ⟨8029, 3, [933, 788, 769]⟩, ⟨8031,
  3, [933, 788, 834]⟩, ⟨8032, 2, [969, 787, 969, 788]⟩, ⟨8034, 3, [969, 787, 768, 969, 788, 768,
  969, 787, 769, 969, 788, 769, 969, 787, 834, 969, 788, 834]⟩, ⟨8040, 2, [937, 787, 937, 788]⟩,
  ⟨8042, 3, [937, 787, 768, 937, 788, 768, 937, 787, 769, 937, 788, 769, 937, 787, 834, 937, 788,
  834]⟩, ⟨8048, 2, [945, 768]⟩, ⟨8050, 2, [949, 768]⟩, ⟨8052, 2, [951, 768]⟩, ⟨8054, 2, [953, 768]⟩,
  ⟨8056, 2, [959, 768]⟩, ⟨8058, 2, [965, 768]⟩, ⟨8060, 2, [969, 768]⟩, ⟨8064, 3, [945, 787, 837,
  945, 788, 837]⟩, ⟨8066, 4, [945, 787, 768, 837, 945, 788, 768, 837, 945, 787, 769, 837, 945, 788,
  769, 837, 945, 787, 834, 837, 945, 788, 834, 837]⟩, ⟨8072, 3, [913, 787, 837, 913, 788, 837]⟩,
  ⟨8074, 4, [913, 787, 768, 837, 913, 788, 768, 837, 913, 787, 769, 837, 913, 788, 769, 837, 913,
  787, 834, 837, 913, 788, 834, 837]⟩, ⟨8080, 3, [951, 787, 837, 951, 788, 837]⟩, ⟨8082, 4, [951,
  787, 768, 837, 951, 788, 768, 837, 951, 787, 769, 837, 951, 788, 769, 837, 951, 787, 834, 837,
  951, 788, 834, 837]⟩, ⟨8088, 3, [919, 787, 837, 919, 788, 837]⟩, ⟨8090, 4, [919, 787, 768, 837,
  919, 788, 768, 837, 919, 787, 769, 837, 919, 788, 769, 837, 919, 787, 834, 837, 919, 788, 834,
  837]⟩, ⟨8096, 3, [969, 787, 837, 969, 788, 837]⟩, ⟨8098, 4, [969, 787, 768, 837, 969, 788, 768,
  837, 969, 787, 769, 837, 969, 788, 769, 837, 969, 787, 834, 837, 969, 788, 834, 837]⟩, ⟨8104, 3,
  [937, 787, 837, 937, 788, 837]⟩, ⟨8106, 4, [937, 787, 768, 837, 937, 788, 768, 837, 937, 787, 769,
  837, 937, 788, 769, 837, 937, 787, 834, 837, 937, 788, 834, 837]⟩, ⟨8112, 2, [945, 774, 945,
  772]⟩, ⟨8114, 3, [945, 768, 837]⟩, ⟨8115, 2, [945, 837]⟩, ⟨8116, 3, [945, 769, 837]⟩, ⟨8118, 2,
  [945, 834]⟩, ⟨8119, 3, [945, 834, 837]⟩, ⟨8120, 2, [913, 774, 913, 772, 913, 768]⟩, ⟨8124, 2,
  [913, 837]⟩, ⟨8130, 3, [951, 768, 837]⟩, ⟨8131, 2, [951, 837]⟩, ⟨8132, 3, [951, 769, 837]⟩, ⟨8134,
  2, [951, 834]⟩, ⟨8135, 3, [951, 834, 837]⟩, ⟨8136, 2, [917, 768]⟩, ⟨8138, 2, [919, 768]⟩, ⟨8140,
  2, [919, 837]⟩, ⟨8144, 2, [953, 774, 953, 772]⟩, ⟨8146, 3, [953, 776, 768]⟩, ⟨8150, 2, [953,
  834]⟩, ⟨8151, 3, [953, 776, 834]⟩, ⟨8152, 2, [921, 774, 921, 772, 921, 768]⟩, ⟨8160, 2, [965, 774,
  965, 772]⟩, ⟨8162, 3, [965, 776, 768]⟩, ⟨8164, 2, [961, 787, 961, 788, 965, 834]⟩, ⟨8167, 3, [965,
  776, 834]⟩, ⟨8168, 2, [933, 774, 933, 772, 933, 768]⟩, ⟨8172, 2, [929, 788]⟩, ⟨8178, 3, [969, 768,
  837]⟩, ⟨8179, 2, [969, 837]⟩, ⟨8180, 3, [969, 769, 837]⟩, ⟨8182, 2, [969, 834]⟩, ⟨8183, 3, [969,
  834, 837]⟩, ⟨8184, 2, [927, 768]⟩, ⟨8186, 2, [937, 768]⟩, ⟨8188, 2, [937, 837]⟩, ⟨12364, 2,
  [12363, 12441]⟩, ⟨12366, 2, [12365, 12441]⟩, ⟨12368, 2, [12367, 12441]⟩, ⟨12370, 2, [12369,
  12441]⟩, ⟨12372, 2, [12371, 12441]⟩, ⟨12374, 2, [12373, 12441]⟩, ⟨12376, 2, [12375, 12441]⟩,
  ⟨12378, 2, [12377, 12441]⟩, ⟨12380, 2, [12379, 12441]⟩, ⟨12382, 2, [12381, 12441]⟩, ⟨12384, 2,
  [12383, 12441]⟩, ⟨12386, 2, [12385, 12441]⟩, ⟨12389, 2, [12388, 12441]⟩, ⟨12391, 2, [12390,
  12441]⟩, ⟨12393, 2, [12392, 12441]⟩, ⟨12400, 2, [12399, 12441, 12399, 12442]⟩, ⟨12403, 2, [12402,
  12441, 12402, 12442]⟩, ⟨12406, 2, [12405, 12441, 12405, 12442]⟩, ⟨12409, 2, [12408, 12441, 12408,
  12442]⟩, ⟨12412, 2, [12411, 12441, 12411, 12442]⟩, ⟨12436, 2, [12358, 12441]⟩, ⟨12446, 2, [12445,
  12441]⟩, ⟨12460, 2, [12459, 12441]⟩, ⟨12462, 2, [12461, 12441]⟩, ⟨12464, 2, [12463, 12441]⟩,
  ⟨12466, 2, [12465, 12441]⟩, ⟨12468, 2, [12467, 12441]⟩, ⟨12470, 2, [12469, 12441]⟩, ⟨12472, 2,
  [12471, 12441]⟩, ⟨12474, 2, [12473, 12441]⟩, ⟨12476, 2, [12475, 12441]⟩, ⟨12478, 2, [12477,
  12441]⟩, ⟨12480, 2, [12479, 12441]⟩, ⟨12482, 2, [12481, 12441]⟩, ⟨12485, 2, [12484, 12441]⟩,
  ⟨12487, 2, [12486, 12441]⟩, ⟨12489, 2, [12488, 12441]⟩, ⟨12496, 2, [12495, 12441, 12495, 12442]⟩,
  ⟨12499, 2, [12498, 12441, 12498, 12442]⟩, ⟨12502, 2, [12501, 12441, 12501, 12442]⟩, ⟨12505, 2,
  [12504, 12441, 12504, 12442]⟩, ⟨12508, 2, [12507, 12441, 12507, 12442]⟩, ⟨12532, 2, [12454,
  12441]⟩, ⟨12535, 2, [12527, 12441, 12528, 12441, 12529, 12441, 12530, 12441]⟩, ⟨12542, 2, [12541,
  12441]⟩, ⟨69786, 2, [69785, 69818]⟩, ⟨69788, 2, [69787, 69818]⟩, ⟨69803, 2, [69797, 69818]⟩,
  ⟨69934, 2, [69937, 69927, 69938, 69927]⟩, ⟨70475, 2, [70471, 70462, 70471, 70487]⟩, ⟨70843, 2,
  [70841, 70842, 70841, 70832]⟩, ⟨70846, 2, [70841, 70845]⟩, ⟨71098, 2, [71096, 71087, 71097,
  71087]⟩, ⟨71992, 2, [71989, 71984]⟩]

def forms : List PartsRow := [
  ⟨170, 1, [97]⟩, ⟨181, 1, [956]⟩, ⟨186, 1, [111]⟩, ⟨383, 1, [115]⟩, ⟨688, 1, [104, 614, 106, 114,
  633, 635, 641, 119, 121]⟩, ⟨736, 1, [611, 108, 115, 120, 661]⟩, ⟨832, 1, [768, 769]⟩, ⟨835, 1,
  [787]⟩, ⟨884, 1, [697]⟩, ⟨903, 1, [183]⟩, ⟨976, 1, [946, 952, 933]⟩, ⟨981, 1, [966, 960]⟩, ⟨1008,
  1, [954, 961, 962]⟩, ⟨1012, 1, [920, 949]⟩, ⟨1017, 1, [931]⟩, ⟨4348, 1, [4316]⟩, ⟨7468, 1, [65,
  198, 66]⟩, ⟨7472, 1, [68, 69, 398, 71, 72, 73, 74, 75, 76, 77, 78]⟩, ⟨7484, 1, [79, 546, 80, 82,
  84, 85, 87, 97, 592, 593, 7426, 98, 100, 101, 601, 603, 604, 103]⟩, ⟨7503, 1, [107, 109, 331, 111,
  596, 7446, 7447, 112, 116, 117, 7453, 623, 118, 7461, 946, 947, 948, 966, 967, 105, 114, 117, 118,
  946, 947, 961, 966, 967]⟩, ⟨7544, 1, [1085]⟩, ⟨7579, 1, [594, 99, 597, 240, 604, 102, 607, 609,
  613, 616, 617, 618, 7547, 669, 621, 7557, 671, 625, 624, 626, 627, 628, 629, 632, 642, 643, 427,
  649, 650, 7452, 651, 652, 122, 656, 657, 658, 952]⟩, ⟨8126, 1, [953]⟩, ⟨8305, 1, [105]⟩, ⟨8319, 1,
  [110]⟩, ⟨8336, 1, [97, 101, 111, 120, 601, 104, 107, 108, 109, 110, 112, 115, 116]⟩, ⟨8450, 1,
  [67]⟩, ⟨8455, 1, [400]⟩, ⟨8458, 1, [103, 72, 72, 72, 104, 295, 73, 73, 76, 108]⟩, ⟨8469, 1, [78]⟩,
  ⟨8473, 1, [80, 81, 82, 82, 82]⟩, ⟨8484, 1, [90]⟩, ⟨8486, 1, [937]⟩, ⟨8488, 1, [90]⟩, ⟨8490, 1,
  [75]⟩, ⟨8492, 1, [66, 67]⟩, ⟨8495, 1, [101, 69, 70]⟩, ⟨8499, 1, [77, 111, 1488, 1489, 1490, 1491,
  105]⟩, ⟨8508, 1, [960, 947, 915, 928]⟩, ⟨8517, 1, [68, 100, 101, 105, 106]⟩, ⟨8544, 1, [73]⟩,
  ⟨8548, 1, [86]⟩, ⟨8553, 1, [88]⟩, ⟨8556, 1, [76, 67, 68, 77, 105]⟩, ⟨8564, 1, [118]⟩, ⟨8569, 1,
  [120]⟩, ⟨8572, 1, [108, 99, 100, 109]⟩, ⟨11388, 1, [106, 86]⟩, ⟨11631, 1, [11617]⟩, ⟨12344, 1,
  [21313, 21316, 21317]⟩, ⟨12593, 1, [4352, 4353, 4522, 4354, 4524, 4525, 4355, 4356, 4357, 4528,
  4529, 4530, 4531, 4532, 4533, 4378, 4358, 4359, 4360, 4385, 4361, 4362, 4363, 4364, 4365, 4366,
  4367, 4368, 4369, 4370, 4449, 4450, 4451, 4452, 4453, 4454, 4455, 4456, 4457, 4458, 4459, 4460,
  4461, 4462, 4463, 4464, 4465, 4466, 4467, 4468, 4469, 4448, 4372, 4373, 4551, 4552, 4556, 4558,
  4563, 4567, 4569, 4380, 4573, 4575, 4381, 4382, 4384, 4386, 4387, 4391, 4393, 4395, 4396, 4397,
  4398, 4399, 4402, 4406, 4416, 4423, 4428, 4593, 4594, 4439, 4440, 4441, 4484, 4485, 4488, 4497,
  4498, 4500, 4510, 4513]⟩, ⟨42652, 1, [1098, 1100]⟩, ⟨42864, 1, [42863]⟩, ⟨42994, 1, [67, 70, 81]⟩,
  ⟨43000, 1, [294, 339]⟩, ⟨43868, 1, [42791, 43831, 619, 43858]⟩, ⟨43881, 1, [653]⟩, ⟨63744, 1,
  [35912, 26356, 36554, 36040, 28369, 20018, 21477, 40860, 40860, 22865, 37329, 21895, 22856, 25078,
  30313, 32645, 34367, 34746, 35064, 37007, 27138, 27931, 28889, 29662, 33853, 37226, 39409, 20098,
  21365, 27396, 29211, 34349, 40478, 23888, 28651, 34253, 35172, 25289, 33240, 34847, 24266, 26391,
  28010, 29436, 37070, 20358, 20919, 21214, 25796, 27347, 29200, 30439, 32769, 34310, 34396, 36335,
  38706, 39791, 40442, 30860, 31103, 32160, 33737, 37636, 40575, 35542, 22751, 24324, 31840, 32894,
  29282, 30922, 36034, 38647, 22744, 23650, 27155, 28122, 28431, 32047, 32311, 38475, 21202, 32907,
  20956, 20940, 31260, 32190, 33777, 38517, 35712, 25295, 27138, 35582, 20025, 23527, 24594, 29575,
  30064, 21271, 30971, 20415, 24489, 19981, 27852, 25976, 32034, 21443, 22622, 30465, 33865, 35498,
  27578, 36784, 27784, 25342, 33509, 25504, 30053, 20142, 20841, 20937, 26753, 31975, 33391, 35538,
  37327, 21237, 21570, 22899, 24300, 26053, 28670, 31018, 38317, 39530, 40599, 40654, 21147, 26310,
  27511, 36706, 24180, 24976, 25088, 25754, 28451, 29001, 29833, 31178, 32244, 32879, 36646, 34030,
  36899, 37706, 21015, 21155, 21693, 28872, 35010, 35498, 24265, 24565, 25467, 27566, 31806, 29557,
  20196, 22265, 23527, 23994, 24604, 29618, 29801, 32666, 32838, 37428, 38646, 38728, 38936, 20363,
  31150, 37300, 38584, 24801, 20102, 20698, 23534, 23615, 26009, 27138, 29134, 30274, 34044, 36988,
  40845, 26248, 38446, 21129, 26491, 26611, 27969, 28316, 29705, 30041, 30827, 32016, 39006, 20845,
  25134, 38520, 20523, 23833, 28138, 36650, 24459, 24900, 26647, 29575, 38534, 21033, 21519, 23653,
  26131, 26446, 26792, 27877, 29702, 30178, 32633, 35023, 35041, 37324, 38626, 21311, 28346, 21533,
  29136, 29848, 34298, 38563, 40023, 40607, 26519, 28107, 33256, 31435, 31520, 31890, 29376, 28825,
  35672, 20160, 33590, 21050, 20999, 24230, 25299, 31958, 23429, 27934, 26292, 36667, 34892, 38477,
  35211, 24275, 20800, 21952]⟩, ⟨64016, 1, [22618]⟩, ⟨64018, 1, [26228]⟩, ⟨64021, 1, [20958, 29482,
  30410, 31036, 31070, 31077, 31119, 38742, 31934, 32701]⟩, ⟨64032, 1, [34322]⟩, ⟨64034, 1,
  [35576]⟩, ⟨64037, 1, [36920, 37117]⟩, ⟨64042, 1, [39151, 39164, 39208, 40372, 37086, 38583, 20398,
  20711, 20813, 21193, 21220, 21329, 21917, 22022, 22120, 22592, 22696, 23652, 23662, 24724, 24936,
  24974, 25074, 25935, 26082, 26257, 26757, 28023, 28186, 28450, 29038, 29227, 29730, 30865, 31038,
  31049, 31048, 31056, 31062, 31069, 31117, 31118, 31296, 31361, 31680, 32244, 32265, 32321, 32626,
  32773, 33261, 33401, 33401, 33879, 35088, 35222, 35585, 35641, 36051, 36104, 36790, 36920, 38627,
  38911, 38971, 24693, 148206, 33304]⟩, ⟨64112, 1, [20006, 20917, 20840, 20352, 20805, 20864, 21191,
  21242, 21917, 21845, 21913, 21986, 22618, 22707, 22852, 22868, 23138, 23336, 24274, 24281, 24425,
  24493, 24792, 24910, 24840, 24974, 24928, 25074, 25140, 25540, 25628, 25682, 25942, 26228, 26391,
  26395, 26454, 27513, 27578, 27969, 28379, 28363, 28450, 28702, 29038, 30631, 29237, 29359, 29482,
  29809, 29958, 30011, 30237, 30239, 30410, 30427, 30452, 30538, 30528, 30924, 31409, 31680, 31867,
  32091, 32244, 32574, 32773, 33618, 33775, 34681, 35137, 35206, 35222, 35519, 35576, 35531, 35585,
  35582, 35565, 35641, 35722, 36104, 36664, 36978, 37273, 37494, 38524, 38627, 38742, 38875, 38911,
  38923, 38971, 39698, 40860, 141386, 141380, 144341, 15261, 16408, 16441, 152137, 154832, 163539,
  40771, 40846]⟩, ⟨64288, 1, [1506, 1488, 1491, 1492, 1499, 1500, 1501, 1512, 1514]⟩, ⟨64336, 1,
  [1649, 1649, 1659, 1659, 1659, 1659, 1662, 1662, 1662, 1662, 1664, 1664, 1664, 1664, 1658, 1658,
  1658, 1658, 1663, 1663, 1663, 1663, 1657, 1657, 1657, 1657, 1700, 1700, 1700, 1700, 1702, 1702,
  1702, 1702, 1668, 1668, 1668, 1668, 1667, 1667, 1667, 1667, 1670, 1670, 1670, 1670, 1671, 1671,
  1671, 1671, 1677, 1677, 1676, 1676, 1678, 1678, 1672, 1672, 1688, 1688, 1681, 1681, 1705, 1705,
  1705, 1705, 1711, 1711, 1711, 1711, 1715, 1715, 1715, 1715, 1713, 1713, 1713, 1713, 1722, 1722,
  1723, 1723, 1723, 1723]⟩, ⟨64422, 1, [1729, 1729, 1729, 1729, 1726, 1726, 1726, 1726, 1746,
  1746]⟩, ⟨64467, 1, [1709, 1709, 1709, 1709, 1735, 1735, 1734, 1734, 1736, 1736]⟩, ⟨64478, 1,
  [1739, 1739, 1733, 1733, 1737, 1737, 1744, 1744, 1744, 1744, 1609, 1609]⟩, ⟨64508, 1, [1740, 1740,
  1740, 1740]⟩, ⟨65075, 1, [95, 95]⟩, ⟨65101, 1, [95, 95, 95]⟩, ⟨65152, 1, [1569]⟩, ⟨65165, 1,
  [1575, 1575, 1576, 1576, 1576, 1576, 1577, 1577, 1578, 1578, 1578, 1578, 1579, 1579, 1579, 1579,
  1580, 1580, 1580, 1580, 1581, 1581, 1581, 1581, 1582, 1582, 1582, 1582, 1583, 1583, 1584, 1584,
  1585, 1585, 1586, 1586, 1587, 1587, 1587, 1587, 1588, 1588, 1588, 1588, 1589, 1589, 1589, 1589,
  1590, 1590, 1590, 1590, 1591, 1591, 1591, 1591, 1592, 1592, 1592, 1592, 1593, 1593, 1593, 1593,
  1594, 1594, 1594, 1594, 1601, 1601, 1601, 1601, 1602, 1602, 1602, 1602, 1603, 1603, 1603, 1603,
  1604, 1604, 1604, 1604, 1605, 1605, 1605, 1605, 1606, 1606, 1606, 1606, 1607, 1607, 1607, 1607,
  1608, 1608, 1609, 1609, 1610, 1610, 1610, 1610]⟩, ⟨65296, 1, [48, 49, 50, 51, 52, 53, 54, 55, 56,
  57]⟩, ⟨65313, 1, [65, 66, 67, 68, 69, 70, 71, 72, 73, 74, 75, 76, 77, 78, 79, 80, 81, 82, 83, 84,
  85, 86, 87, 88, 89, 90]⟩, ⟨65343, 1, [95]⟩, ⟨65345, 1, [97, 98, 99, 100, 101, 102, 103, 104, 105,
  106, 107, 108, 109, 110, 111, 112, 113, 114, 115, 116, 117, 118, 119, 120, 121, 122]⟩, ⟨65382, 1,
  [12530, 12449, 12451, 12453, 12455, 12457, 12515, 12517, 12519, 12483, 12540, 12450, 12452, 12454,
  12456, 12458, 12459, 12461, 12463, 12465, 12467, 12469, 12471, 12473, 12475, 12477, 12479, 12481,
  12484, 12486, 12488, 12490, 12491, 12492, 12493, 12494, 12495, 12498, 12501, 12504, 12507, 12510,
  12511, 12512, 12513, 12514, 12516, 12518, 12520, 12521, 12522, 12523, 12524, 12525, 12527, 12531,
  12441, 12442, 4448, 4352, 4353, 4522, 4354, 4524, 4525, 4355, 4356, 4357, 4528, 4529, 4530, 4531,
  4532, 4533, 4378, 4358, 4359, 4360, 4385, 4361, 4362, 4363, 4364, 4365, 4366, 4367, 4368, 4369,
  4370]⟩, ⟨65474, 1, [4449, 4450, 4451, 4452, 4453, 4454]⟩, ⟨65482, 1, [4455, 4456, 4457, 4458,
  4459, 4460]⟩, ⟨65490, 1, [4461, 4462, 4463, 4464, 4465, 4466]⟩, ⟨65498, 1, [4467, 4468, 4469]⟩,
  ⟨67457, 1, [720, 721, 230, 665, 595]⟩, ⟨67463, 1, [675, 43878, 677, 676, 598, 599, 7569, 600, 606,
  681, 612, 610, 608, 667, 295, 668, 615, 644, 682, 683, 620, 122628, 42894, 622, 122629, 654,
  122630, 248, 630, 631, 113, 634, 122632, 637, 638, 640, 680, 678, 43879, 679, 648, 11377]⟩,
  ⟨67506, 1, [655, 673, 674, 664, 448, 449, 450, 122634, 122654]⟩, ⟨119808, 1, [65, 66, 67, 68, 69,
  70, 71, 72, 73, 74, 75, 76, 77, 78, 79, 80, 81, 82, 83, 84, 85, 86, 87, 88, 89, 90, 97, 98, 99,
  100, 101, 102, 103, 104, 105, 106, 107, 108, 109, 110, 111, 112, 113, 114, 115, 116, 117, 118,
  119, 120, 121, 122, 65, 66, 67, 68, 69, 70, 71, 72, 73, 74, 75, 76, 77, 78, 79, 80, 81, 82, 83,
  84, 85, 86, 87, 88, 89, 90, 97, 98, 99, 100, 101, 102, 103]⟩, ⟨119894, 1, [105, 106, 107, 108,
  109, 110, 111, 112, 113, 114, 115, 116, 117, 118, 119, 120, 121, 122, 65, 66, 67, 68, 69, 70, 71,
  72, 73, 74, 75, 76, 77, 78, 79, 80, 81, 82, 83, 84, 85, 86, 87, 88, 89, 90, 97, 98, 99, 100, 101,
  102, 103, 104, 105, 106, 107, 108, 109, 110, 111, 112, 113, 114, 115, 116, 117, 118, 119, 120,
  121, 122, 65]⟩, ⟨119966, 1, [67, 68]⟩, ⟨119970, 1, [71]⟩, ⟨119973, 1, [74, 75]⟩, ⟨119977, 1, [78,
  79, 80, 81]⟩, ⟨119982, 1, [83, 84, 85, 86, 87, 88, 89, 90, 97, 98, 99, 100]⟩, ⟨119995, 1, [102]⟩,
  ⟨119997, 1, [104, 105, 106, 107, 108, 109, 110]⟩, ⟨120005, 1, [112, 113, 114, 115, 116, 117, 118,
  119, 120, 121, 122, 65, 66, 67, 68, 69, 70, 71, 72, 73, 74, 75, 76, 77, 78, 79, 80, 81, 82, 83,
  84, 85, 86, 87, 88, 89, 90, 97, 98, 99, 100, 101, 102, 103, 104, 105, 106, 107, 108, 109, 110,
  111, 112, 113, 114, 115, 116, 117, 118, 119, 120, 121, 122, 65, 66]⟩, ⟨120071, 1, [68, 69, 70,
  71]⟩, ⟨120077, 1, [74, 75, 76, 77, 78, 79, 80, 81]⟩, ⟨120086, 1, [83, 84, 85, 86, 87, 88, 89]⟩,
  ⟨120094, 1, [97, 98, 99, 100, 101, 102, 103, 104, 105, 106, 107, 108, 109, 110, 111, 112, 113,
  114, 115, 116, 117, 118, 119, 120, 121, 122, 65, 66]⟩, ⟨120123, 1, [68, 69, 70, 71]⟩, ⟨120128, 1,
  [73, 74, 75, 76, 77]⟩, ⟨120134, 1, [79]⟩, ⟨120138, 1, [83, 84, 85, 86, 87, 88, 89]⟩, ⟨120146, 1,
  [97, 98, 99, 100, 101, 102, 103, 104, 105, 106, 107, 108, 109, 110, 111, 112, 113, 114, 115, 116,
  117, 118, 119, 120, 121, 122, 65, 66, 67, 68, 69, 70, 71, 72, 73, 74, 75, 76, 77, 78, 79, 80, 81,
  82, 83, 84, 85, 86, 87, 88, 89, 90, 97, 98, 99, 100, 101, 102, 103, 104, 105, 106, 107, 108, 109,
  110, 111, 112, 113, 114, 115, 116, 117, 118, 119, 120, 121, 122, 65, 66, 67, 68, 69, 70, 71, 72,
  73, 74, 75, 76, 77, 78, 79, 80, 81, 82, 83, 84, 85, 86, 87, 88, 89, 90, 97, 98, 99, 100, 101, 102,
  103, 104, 105, 106, 107, 108, 109, 110, 111, 112, 113, 114, 115, 116, 117, 118, 119, 120, 121,
  122, 65, 66, 67, 68, 69, 70, 71, 72, 73, 74, 75, 76, 77, 78, 79, 80, 81, 82, 83, 84, 85, 86, 87,
  88, 89, 90, 97, 98, 99, 100, 101, 102, 103, 104, 105, 106, 107, 108, 109, 110, 111, 112, 113, 114,
  115, 116, 117, 118, 119, 120, 121, 122, 65, 66, 67, 68, 69, 70, 71, 72, 73, 74, 75, 76, 77, 78,
  79, 80, 81, 82, 83, 84, 85, 86, 87, 88, 89, 90, 97, 98, 99, 100, 101, 102, 103, 104, 105, 106,
  107, 108, 109, 110, 111, 112, 113, 114, 115, 116, 117, 118, 119, 120, 121, 122, 65, 66, 67, 68,
  69, 70, 71, 72, 73, 74, 75, 76, 77, 78, 79, 80, 81, 82, 83, 84, 85, 86, 87, 88, 89, 90, 97, 98,
  99, 100, 101, 102, 103, 104, 105, 106, 107, 108, 109, 110, 111, 112, 113, 114, 115, 116, 117, 118,
  119, 120, 121, 122, 65, 66, 67, 68, 69, 70, 71, 72, 73, 74, 75, 76, 77, 78, 79, 80, 81, 82, 83,
  84, 85, 86, 87, 88, 89, 90, 97, 98, 99, 100, 101, 102, 103, 104, 105, 106, 107, 108, 109, 110,
  111, 112, 113, 114, 115, 116, 117, 118, 119, 120, 121, 122, 305, 567]⟩, ⟨120488, 1, [913, 914,
  915, 916, 917, 918, 919, 920, 921, 922, 923, 924, 925, 926, 927, 928, 929, 920, 931, 932, 933,
  934, 935, 936, 937]⟩, ⟨120514, 1, [945, 946, 947, 948, 949, 950, 951, 952, 953, 954, 955, 956,
  957, 958, 959, 960, 961, 962, 963, 964, 965, 966, 967, 968, 969]⟩, ⟨120540, 1, [949, 952, 954,
  966, 961, 960, 913, 914, 915, 916, 917, 918, 919, 920, 921, 922, 923, 924, 925, 926, 927, 928,
  929, 920, 931, 932, 933, 934, 935, 936, 937]⟩, ⟨120572, 1, [945, 946, 947, 948, 949, 950, 951,
  952, 953, 954, 955, 956, 957, 958, 959, 960, 961, 962, 963, 964, 965, 966, 967, 968, 969]⟩,
  ⟨120598, 1, [949, 952, 954, 966, 961, 960, 913, 914, 915, 916, 917, 918, 919, 920, 921, 922, 923,
  924, 925, 926, 927, 928, 929, 920, 931, 932, 933, 934, 935, 936, 937]⟩, ⟨120630, 1, [945, 946,
  947, 948, 949, 950, 951, 952, 953, 954, 955, 956, 957, 958, 959, 960, 961, 962, 963, 964, 965,
  966, 967, 968, 969]⟩, ⟨120656, 1, [949, 952, 954, 966, 961, 960, 913, 914, 915, 916, 917, 918,
  919, 920, 921, 922, 923, 924, 925, 926, 927, 928, 929, 920, 931, 932, 933, 934, 935, 936, 937]⟩,
  ⟨120688, 1, [945, 946, 947, 948, 949, 950, 951, 952, 953, 954, 955, 956, 957, 958, 959, 960, 961,
  962, 963, 964, 965, 966, 967, 968, 969]⟩, ⟨120714, 1, [949, 952, 954, 966, 961, 960, 913, 914,
  915, 916, 917, 918, 919, 920, 921, 922, 923, 924, 925, 926, 927, 928, 929, 920, 931, 932, 933,
  934, 935, 936, 937]⟩, ⟨120746, 1, [945, 946, 947, 948, 949, 950, 951, 952, 953, 954, 955, 956,
  957, 958, 959, 960, 961, 962, 963, 964, 965, 966, 967, 968, 969]⟩, ⟨120772, 1, [949, 952, 954,
  966, 961, 960, 988, 989]⟩, ⟨120782, 1, [48, 49, 50, 51, 52, 53, 54, 55, 56, 57, 48, 49, 50, 51,
  52, 53, 54, 55, 56, 57, 48, 49, 50, 51, 52, 53, 54, 55, 56, 57, 48, 49, 50, 51, 52, 53, 54, 55,
  56, 57, 48, 49, 50, 51, 52, 53, 54, 55, 56, 57]⟩, ⟨126464, 1, [1575, 1576, 1580, 1583]⟩, ⟨126469,
  1, [1608, 1586, 1581, 1591, 1610, 1603, 1604, 1605, 1606, 1587, 1593, 1601, 1589, 1602, 1585,
  1588, 1578, 1579, 1582, 1584, 1590, 1592, 1594, 1646, 1722, 1697, 1647]⟩, ⟨126497, 1, [1576,
  1580]⟩, ⟨126500, 1, [1607]⟩, ⟨126503, 1, [1581]⟩, ⟨126505, 1, [1610, 1603, 1604, 1605, 1606, 1587,
  1593, 1601, 1589, 1602]⟩, ⟨126516, 1, [1588, 1578, 1579, 1582]⟩, ⟨126521, 1, [1590]⟩, ⟨126523, 1,
  [1594]⟩, ⟨126530, 1, [1580]⟩, ⟨126535, 1, [1581]⟩, ⟨126537, 1, [1610]⟩, ⟨126539, 1, [1604]⟩,
  ⟨126541, 1, [1606, 1587, 1593]⟩, ⟨126545, 1, [1589, 1602]⟩, ⟨126548, 1, [1588]⟩, ⟨126551, 1,
  [1582]⟩, ⟨126553, 1, [1590]⟩, ⟨126555, 1, [1594]⟩, ⟨126557, 1, [1722]⟩, ⟨126559, 1, [1647]⟩,
  ⟨126561, 1, [1576, 1580]⟩, ⟨126564, 1, [1607]⟩, ⟨126567, 1, [1581, 1591, 1610, 1603]⟩, ⟨126572, 1,
  [1605, 1606, 1587, 1593, 1601, 1589, 1602]⟩, ⟨126580, 1, [1588, 1578, 1579, 1582]⟩, ⟨126585, 1,
  [1590, 1592, 1594, 1646]⟩, ⟨126590, 1, [1697]⟩, ⟨126592, 1, [1575, 1576, 1580, 1583, 1607, 1608,
  1586, 1581, 1591, 1610]⟩, ⟨126603, 1, [1604, 1605, 1606, 1587, 1593, 1601, 1589, 1602, 1585, 1588,
  1578, 1579, 1582, 1584, 1590, 1592, 1594]⟩, ⟨126625, 1, [1576, 1580, 1583]⟩, ⟨126629, 1, [1608,
  1586, 1581, 1591, 1610]⟩, ⟨126635, 1, [1604, 1605, 1606, 1587, 1593, 1601, 1589, 1602, 1585, 1588,
  1578, 1579, 1582, 1584, 1590, 1592, 1594]⟩, ⟨130032, 1, [48, 49, 50, 51, 52, 53, 54, 55, 56, 57]⟩,
  ⟨194560, 1, [20029, 20024, 20033, 131362, 20320, 20398, 20411, 20482, 20602, 20633, 20711, 20687,
  13470, 132666, 20813, 20820, 20836, 20855, 132380, 13497, 20839, 20877, 132427, 20887, 20900,
  20172, 20908, 20917, 168415, 20981, 20995, 13535, 21051, 21062, 21106, 21111, 13589, 21191, 21193,
  21220, 21242, 21253, 21254, 21271, 21321, 21329, 21338, 21363, 21373, 21375, 21375, 21375, 133676,
  28784, 21450, 21471, 133987, 21483, 21489, 21510, 21662, 21560, 21576, 21608, 21666, 21750, 21776,
  21843, 21859, 21892, 21892, 21913, 21931, 21939, 21954, 22294, 22022, 22295, 22097, 22132, 20999,
  22766, 22478, 22516, 22541, 22411, 22578, 22577, 22700, 136420, 22770, 22775, 22790, 22810, 22818,
  22882, 136872, 136938, 23020, 23067, 23079, 23000, 23142, 14062, 14076, 23304, 23358, 23358,
  137672, 23491, 23512, 23527, 23539, 138008, 23551, 23558, 24403, 23586, 14209, 23648, 23662,
  23744, 23693, 138724, 23875, 138726, 23918, 23915, 23932, 24033, 24034, 14383, 24061, 24104,
  24125, 24169, 14434, 139651, 14460, 24240, 24243, 24246, 24266, 172946, 24318, 140081, 140081,
  33281, 24354, 24354, 14535, 144056, 156122, 24418, 24427, 14563, 24474, 24525, 24535, 24569,
  24705, 14650, 14620, 24724, 141012, 24775, 24904, 24908, 24910, 24908, 24954, 24974, 25010, 24996,
  25007, 25054, 25074, 25078, 25104, 25115, 25181, 25265, 25300, 25424, 142092, 25405, 25340, 25448,
  25475, 25572, 142321, 25634, 25541, 25513, 14894, 25705, 25726, 25757, 25719, 14956, 25935, 25964,
  143370, 26083, 26360, 26185, 15129, 26257, 15112, 15076, 20882, 20885, 26368, 26268, 32941, 17369,
  26391, 26395, 26401, 26462, 26451, 144323, 15177, 26618, 26501, 26706, 26757, 144493, 26766,
  26655, 26900, 15261, 26946, 27043, 27114, 27304, 145059, 27355, 15384, 27425, 145575, 27476,
  15438, 27506, 27551, 27578, 27579, 146061, 138507, 146170, 27726, 146620, 27839, 27853, 27751,
  27926, 27966, 28023, 27969, 28009, 28024, 28037, 146718, 27956, 28207, 28270, 15667, 28363, 28359,
  147153, 28153, 28526, 147294, 147342, 28614, 28729, 28702, 28699, 15766, 28746, 28797, 28791,
  28845, 132389, 28997, 148067, 29084, 148395, 29224, 29237, 29264, 149000, 29312, 29333, 149301,
  149524, 29562, 29579, 16044, 29605, 16056, 16056, 29767, 29788, 29809, 29829, 29898, 16155, 29988,
  150582, 30014, 150674, 30064, 139679, 30224, 151457, 151480, 151620, 16380, 16392, 30452, 151795,
  151794, 151833, 151859, 30494, 30495, 30495, 30538, 16441, 30603, 16454, 16534, 152605, 30798,
  30860, 30924, 16611, 153126, 31062, 153242, 153285, 31119, 31211, 16687, 31296, 31306, 31311,
  153980, 154279, 154279, 31470, 16898, 154539, 31686, 31689, 16935, 154752, 31954, 17056, 31976,
  31971, 32000, 155526, 32099, 17153, 32199, 32258, 32325, 17204, 156200, 156231, 17241, 156377,
  32634, 156478, 32661, 32762, 32773, 156890, 156963, 32864, 157096, 32880, 144223, 17365, 32946,
  33027, 17419, 33086, 23221, 157607, 157621, 144275, 144284, 33281, 33284, 36766, 17515, 33425,
  33419, 33437, 21171, 33457, 33459, 33469, 33510, 158524, 33509, 33565, 33635, 33709, 33571, 33725,
  33767, 33879, 33619, 33738, 33740, 33756, 158774, 159083, 158933, 17707, 34033, 34035, 34070,
  160714, 34148, 159532, 17757, 17761, 159665, 159954, 17771, 34384, 34396, 34407, 34409, 34473,
  34440, 34574, 34530, 34681, 34600, 34667, 34694, 17879, 34785, 34817, 17913, 34912, 34915, 161383,
  35031, 35038, 17973, 35066, 13499, 161966, 162150, 18110, 18119, 35488, 35565, 35722, 35925,
  162984, 36011, 36033, 36123, 36215, 163631, 133124, 36299, 36284, 36336, 133342, 36564, 36664,
  165330, 165357, 37012, 37105, 37137, 165678, 37147, 37432, 37591, 37592, 37500, 37881, 37909,
  166906, 38283, 18837, 38327, 167287, 18918, 38595, 23986, 38691, 168261, 168474, 19054, 19062,
  38880, 168970, 19122, 169110, 38923, 38923, 38953, 169398, 39138, 19251, 39209, 39335, 39362,
  39422, 19406, 170800, 39698, 40000, 40189, 19662, 19693, 40295, 172238, 19704, 172293, 172558,
  172689, 40635, 19798, 40697, 40702, 40709, 40719, 40726, 40763, 173568]⟩]

def ligatures : List PartsRow := [
  ⟨306, 2, [73, 74, 105, 106]⟩, ⟨319, 2, [76, 183, 108, 183]⟩, ⟨329, 2, [700, 110]⟩, ⟨452, 3, [68,
  90, 780, 68, 122, 780, 100, 122, 780]⟩, ⟨455, 2, [76, 74, 76, 106, 108, 106, 78, 74, 78, 106, 110,
  106]⟩, ⟨497, 2, [68, 90, 68, 122, 100, 122]⟩, ⟨836, 2, [776, 769]⟩, ⟨979, 2, [933, 769, 933,
  776]⟩, ⟨1415, 2, [1381, 1410]⟩, ⟨1653, 2, [1575, 1652, 1608, 1652, 1735, 1652, 1610, 1652]⟩,
  ⟨2392, 2, [2325, 2364, 2326, 2364, 2327, 2364, 2332, 2364, 2337, 2364, 2338, 2364, 2347, 2364,
  2351, 2364]⟩, ⟨2524, 2, [2465, 2492, 2466, 2492]⟩, ⟨2527, 2, [2479, 2492]⟩, ⟨2611, 2, [2610,
  2620]⟩, ⟨2614, 2, [2616, 2620]⟩, ⟨2649, 2, [2582, 2620, 2583, 2620, 2588, 2620]⟩, ⟨2654, 2, [2603,
  2620]⟩, ⟨2908, 2, [2849, 2876, 2850, 2876]⟩, ⟨3635, 2, [3661, 3634]⟩, ⟨3763, 2, [3789, 3762]⟩,
  ⟨3804, 2, [3755, 3737, 3755, 3745]⟩, ⟨3907, 2, [3906, 4023]⟩, ⟨3917, 2, [3916, 4023]⟩, ⟨3922, 2,
  [3921, 4023]⟩, ⟨3927, 2, [3926, 4023]⟩, ⟨3932, 2, [3931, 4023]⟩, ⟨3945, 2, [3904, 4021]⟩, ⟨3955,
  2, [3953, 3954]⟩, ⟨3957, 2, [3953, 3956, 4018, 3968]⟩, ⟨3959, 3, [4018, 3953, 3968]⟩, ⟨3960, 2,
  [4019, 3968]⟩, ⟨3961, 3, [4019, 3953, 3968]⟩, ⟨3969, 2, [3953, 3968]⟩, ⟨3987, 2, [3986, 4023]⟩,
  ⟨3997, 2, [3996, 4023]⟩, ⟨4002, 2, [4001, 4023]⟩, ⟨4007, 2, [4006, 4023]⟩, ⟨4012, 2, [4011,
  4023]⟩, ⟨4025, 2, [3984, 4021]⟩, ⟨7834, 2, [97, 702, 115, 775]⟩, ⟨8049, 2, [945, 769]⟩, ⟨8051, 2,
  [949, 769]⟩, ⟨8053, 2, [951, 769]⟩, ⟨8055, 2, [953, 769]⟩, ⟨8057, 2, [959, 769]⟩, ⟨8059, 2, [965,
  769]⟩, ⟨8061, 2, [969, 769]⟩, ⟨8123, 2, [913, 769]⟩, ⟨8137, 2, [917, 769]⟩, ⟨8139, 2, [919, 769]⟩,
  ⟨8147, 3, [953, 776, 769]⟩, ⟨8155, 2, [921, 769]⟩, ⟨8163, 3, [965, 776, 769]⟩, ⟨8171, 2, [933,
  769]⟩, ⟨8185, 2, [927, 769]⟩, ⟨8187, 2, [937, 769]⟩, ⟨8491, 2, [65, 778]⟩, ⟨8545, 2, [73, 73]⟩,
  ⟨8546, 3, [73, 73, 73]⟩, ⟨8547, 2, [73, 86]⟩, ⟨8549, 2, [86, 73]⟩, ⟨8550, 3, [86, 73, 73]⟩, ⟨8551,
  4, [86, 73, 73, 73]⟩, ⟨8552, 2, [73, 88]⟩, ⟨8554, 2, [88, 73]⟩, ⟨8555, 3, [88, 73, 73]⟩, ⟨8561, 2,
  [105, 105]⟩, ⟨8562, 3, [105, 105, 105]⟩, ⟨8563, 2, [105, 118]⟩, ⟨8565, 2, [118, 105]⟩, ⟨8566, 3,
  [118, 105, 105]⟩, ⟨8567, 4, [118, 105, 105, 105]⟩, ⟨8568, 2, [105, 120]⟩, ⟨8570, 2, [120, 105]⟩,
  ⟨8571, 3, [120, 105, 105]⟩, ⟨12447, 2, [12424, 12426]⟩, ⟨12543, 2, [12467, 12488]⟩, ⟨64256, 2,
  [102, 102, 102, 105, 102, 108]⟩, ⟨64259, 3, [102, 102, 105, 102, 102, 108]⟩, ⟨64261, 2, [115, 116,
  115, 116]⟩, ⟨64275, 2, [1396, 1398, 1396, 1381, 1396, 1387, 1406, 1398, 1396, 1389]⟩, ⟨64285, 2,
  [1497, 1460]⟩, ⟨64287, 2, [1522, 1463]⟩, ⟨64298, 2, [1513, 1473, 1513, 1474]⟩, ⟨64300, 3, [1513,
  1468, 1473, 1513, 1468, 1474]⟩, ⟨64302, 2, [1488, 1463, 1488, 1464, 1488, 1468, 1489, 1468, 1490,
  1468, 1491, 1468, 1492, 1468, 1493, 1468, 1494, 1468]⟩, ⟨64312, 2, [1496, 1468, 1497, 1468, 1498,
  1468, 1499, 1468, 1500, 1468]⟩, ⟨64318, 2, [1502, 1468]⟩, ⟨64320, 2, [1504, 1468, 1505, 1468]⟩,
  ⟨64323, 2, [1507, 1468, 1508, 1468]⟩, ⟨64326, 2, [1510, 1468, 1511, 1468, 1512, 1468, 1513, 1468,
  1514, 1468, 1493, 1465, 1489, 1471, 1499, 1471, 1508, 1471, 1488, 1500]⟩, ⟨64420, 2, [1749, 1620,
  1749, 1620]⟩, ⟨64432, 2, [1746, 1620, 1746, 1620]⟩, ⟨64477, 2, [1735, 1652]⟩, ⟨64490, 3, [1610,
  1620, 1575, 1610, 1620, 1575, 1610, 1620, 1749, 1610, 1620, 1749, 1610, 1620, 1608, 1610, 1620,
  1608, 1610, 1620, 1735, 1610, 1620, 1735, 1610, 1620, 1734, 1610, 1620, 1734, 1610, 1620, 1736,
  1610, 1620, 1736, 1610, 1620, 1744, 1610, 1620, 1744, 1610, 1620, 1744, 1610, 1620, 1609, 1610,
  1620, 1609, 1610, 1620, 1609]⟩, ⟨64512, 3, [1610, 1620, 1580, 1610, 1620, 1581, 1610, 1620, 1605,
  1610, 1620, 1609, 1610, 1620, 1610]⟩, ⟨64517, 2, [1576, 1580, 1576, 1581, 1576, 1582, 1576, 1605,
  1576, 1609, 1576, 1610, 1578, 1580, 1578, 1581, 1578, 1582, 1578, 1605, 1578, 1609, 1578, 1610,
  1579, 1580, 1579, 1605, 1579, 1609, 1579, 1610, 1580, 1581, 1580, 1605, 1581, 1580, 1581, 1605,
  1582, 1580, 1582, 1581, 1582, 1605, 1587, 1580, 1587, 1581, 1587, 1582, 1587, 1605, 1589, 1581,
  1589, 1605, 1590, 1580, 1590, 1581, 1590, 1582, 1590, 1605, 1591, 1581, 1591, 1605, 1592, 1605,
  1593, 1580, 1593, 1605, 1594, 1580, 1594, 1605, 1601, 1580, 1601, 1581, 1601, 1582, 1601, 1605,
  1601, 1609, 1601, 1610, 1602, 1581, 1602, 1605, 1602, 1609, 1602, 1610, 1603, 1575, 1603, 1580,
  1603, 1581, 1603, 1582, 1603, 1604, 1603, 1605, 1603, 1609, 1603, 1610, 1604, 1580, 1604, 1581,
  1604, 1582, 1604, 1605, 1604, 1609, 1604, 1610, 1605, 1580, 1605, 1581, 1605, 1582, 1605, 1605,
  1605, 1609, 1605, 1610, 1606, 1580, 1606, 1581, 1606, 1582, 1606, 1605, 1606, 1609, 1606, 1610,
  1607, 1580, 1607, 1605, 1607, 1609, 1607, 1610, 1610, 1580, 1610, 1581, 1610, 1582, 1610, 1605,
  1610, 1609, 1610, 1610, 1584, 1648, 1585, 1648, 1609, 1648]⟩, ⟨64612, 3, [1610, 1620, 1585, 1610,
  1620, 1586, 1610, 1620, 1605, 1610, 1620, 1606, 1610, 1620, 1609, 1610, 1620, 1610]⟩, ⟨64618, 2,
  [1576, 1585, 1576, 1586, 1576, 1605, 1576, 1606, 1576, 1609, 1576, 1610, 1578, 1585, 1578, 1586,
  1578, 1605, 1578, 1606, 1578, 1609, 1578, 1610, 1579, 1585, 1579, 1586, 1579, 1605, 1579, 1606,
  1579, 1609, 1579, 1610, 1601, 1609, 1601, 1610, 1602, 1609, 1602, 1610, 1603, 1575, 1603, 1604,
  1603, 1605, 1603, 1609, 1603, 1610, 1604, 1605, 1604, 1609, 1604, 1610, 1605, 1575, 1605, 1605,
  1606, 1585, 1606, 1586, 1606, 1605, 1606, 1606, 1606, 1609, 1606, 1610, 1609, 1648, 1610, 1585,
  1610, 1586, 1610, 1605, 1610, 1606, 1610, 1609, 1610, 1610]⟩, ⟨64663, 3, [1610, 1620, 1580, 1610,
  1620, 1581, 1610, 1620, 1582, 1610, 1620, 1605, 1610, 1620, 1607]⟩, ⟨64668, 2, [1576, 1580, 1576,
  1581, 1576, 1582, 1576, 1605, 1576, 1607, 1578, 1580, 1578, 1581, 1578, 1582, 1578, 1605, 1578,
  1607, 1579, 1605, 1580, 1581, 1580, 1605, 1581, 1580, 1581, 1605, 1582, 1580, 1582, 1605, 1587,
  1580, 1587, 1581, 1587, 1582, 1587, 1605, 1589, 1581, 1589, 1582, 1589, 1605, 1590, 1580, 1590,
  1581, 1590, 1582, 1590, 1605, 1591, 1581, 1592, 1605, 1593, 1580, 1593, 1605, 1594, 1580, 1594,
  1605, 1601, 1580, 1601, 1581, 1601, 1582, 1601, 1605, 1602, 1581, 1602, 1605, 1603, 1580, 1603,
  1581, 1603, 1582, 1603, 1604, 1603, 1605, 1604, 1580, 1604, 1581, 1604, 1582, 1604, 1605, 1604,
  1607, 1605, 1580, 1605, 1581, 1605, 1582, 1605, 1605, 1606, 1580, 1606, 1581, 1606, 1582, 1606,
  1605, 1606, 1607, 1607, 1580, 1607, 1605, 1607, 1648, 1610, 1580, 1610, 1581, 1610, 1582, 1610,
  1605, 1610, 1607]⟩, ⟨64735, 3, [1610, 1620, 1605, 1610, 1620, 1607]⟩, ⟨64737, 2, [1576, 1605,
  1576, 1607, 1578, 1605, 1578, 1607, 1579, 1605, 1579, 1607, 1587, 1605, 1587, 1607, 1588, 1605,
  1588, 1607, 1603, 1604, 1603, 1605, 1604, 1605, 1606, 1605, 1606, 1607, 1610, 1605, 1610, 1607]⟩,
  ⟨64754, 3, [1600, 1614, 1617, 1600, 1615, 1617, 1600, 1616, 1617]⟩, ⟨64757, 2, [1591, 1609, 1591,
  1610, 1593, 1609, 1593, 1610, 1594, 1609, 1594, 1610, 1587, 1609, 1587, 1610, 1588, 1609, 1588,
  1610, 1581, 1609, 1581, 1610, 1580, 1609, 1580, 1610, 1582, 1609, 1582, 1610, 1589, 1609, 1589,
  1610, 1590, 1609, 1590, 1610, 1588, 1580, 1588, 1581, 1588, 1582, 1588, 1605, 1588, 1585, 1587,
  1585, 1589, 1585, 1590, 1585, 1591, 1609, 1591, 1610, 1593, 1609, 1593, 1610, 1594, 1609, 1594,
  1610, 1587, 1609, 1587, 1610, 1588, 1609, 1588, 1610, 1581, 1609, 1581, 1610, 1580, 1609, 1580,
  1610, 1582, 1609, 1582, 1610, 1589, 1609, 1589, 1610, 1590, 1609, 1590, 1610, 1588, 1580, 1588,
  1581, 1588, 1582, 1588, 1605, 1588, 1585, 1587, 1585, 1589, 1585, 1590, 1585, 1588, 1580, 1588,
  1581, 1588, 1582, 1588, 1605, 1587, 1607, 1588, 1607, 1591, 1605, 1587, 1580, 1587, 1581, 1587,
  1582, 1588, 1580, 1588, 1581, 1588, 1582, 1591, 1605, 1592, 1605, 1575, 1611, 1575, 1611]⟩,
  ⟨64848, 3, [1578, 1580, 1605, 1578, 1581, 1580, 1578, 1581, 1580, 1578, 1581, 1605, 1578, 1582,
  1605, 1578, 1605, 1580, 1578, 1605, 1581, 1578, 1605, 1582, 1580, 1605, 1581, 1580, 1605, 1581,
  1581, 1605, 1610, 1581, 1605, 1609, 1587, 1581, 1580, 1587, 1580, 1581, 1587, 1580, 1609, 1587,
  1605, 1581, 1587, 1605, 1581, 1587, 1605, 1580, 1587, 1605, 1605, 1587, 1605, 1605, 1589, 1581,
  1581, 1589, 1581, 1581, 1589, 1605, 1605, 1588, 1581, 1605, 1588, 1581, 1605, 1588, 1580, 1610,
  1588, 1605, 1582, 1588, 1605, 1582, 1588, 1605, 1605, 1588, 1605, 1605, 1590, 1581, 1609, 1590,
  1582, 1605, 1590, 1582, 1605, 1591, 1605, 1581, 1591, 1605, 1581, 1591, 1605, 1605, 1591, 1605,
  1610, 1593, 1580, 1605, 1593, 1605, 1605, 1593, 1605, 1605, 1593, 1605, 1609, 1594, 1605, 1605,
  1594, 1605, 1610, 1594, 1605, 1609, 1601, 1582, 1605, 1601, 1582, 1605, 1602, 1605, 1581, 1602,
  1605, 1605, 1604, 1581, 1605, 1604, 1581, 1610, 1604, 1581, 1609, 1604, 1580, 1580, 1604, 1580,
  1580, 1604, 1582, 1605, 1604, 1582, 1605, 1604, 1605, 1581, 1604, 1605, 1581, 1605, 1581, 1580,
  1605, 1581, 1605, 1605, 1581, 1610, 1605, 1580, 1581, 1605, 1580, 1605, 1605, 1582, 1580, 1605,
  1582, 1605]⟩, ⟨64914, 3, [1605, 1580, 1582, 1607, 1605, 1580, 1607, 1605, 1605, 1606, 1581, 1605,
  1606, 1581, 1609, 1606, 1580, 1605, 1606, 1580, 1605, 1606, 1580, 1609, 1606, 1605, 1610, 1606,
  1605, 1609, 1610, 1605, 1605, 1610, 1605, 1605, 1576, 1582, 1610, 1578, 1580, 1610, 1578, 1580,
  1609, 1578, 1582, 1610, 1578, 1582, 1609, 1578, 1605, 1610, 1578, 1605, 1609, 1580, 1605, 1610,
  1580, 1581, 1609, 1580, 1605, 1609, 1587, 1582, 1609, 1589, 1581, 1610, 1588, 1581, 1610, 1590,
  1581, 1610, 1604, 1580, 1610, 1604, 1605, 1610, 1610, 1581, 1610, 1610, 1580, 1610, 1610, 1605,
  1610, 1605, 1605, 1610, 1602, 1605, 1610, 1606, 1581, 1610, 1602, 1605, 1581, 1604, 1581, 1605,
  1593, 1605, 1610, 1603, 1605, 1610, 1606, 1580, 1581, 1605, 1582, 1610, 1604, 1580, 1605, 1603,
  1605, 1605, 1604, 1580, 1605, 1606, 1580, 1581, 1580, 1581, 1610, 1581, 1580, 1610, 1605, 1580,
  1610, 1601, 1605, 1610, 1576, 1581, 1610, 1603, 1605, 1605, 1593, 1580, 1605, 1589, 1605, 1605,
  1587, 1582, 1610, 1606, 1580, 1610]⟩, ⟨65008, 3, [1589, 1604, 1746, 1602, 1604, 1746]⟩, ⟨65010, 4,
  [1575, 1604, 1604, 1607, 1575, 1603, 1576, 1585, 1605, 1581, 1605, 1583, 1589, 1604, 1593, 1605,
  1585, 1587, 1608, 1604, 1593, 1604, 1610, 1607, 1608, 1587, 1604, 1605]⟩, ⟨65017, 3, [1589, 1604,
  1609]⟩, ⟨65137, 2, [1600, 1611]⟩, ⟨65143, 2, [1600, 1614]⟩, ⟨65145, 2, [1600, 1615]⟩, ⟨65147, 2,
  [1600, 1616]⟩, ⟨65149, 2, [1600, 1617]⟩, ⟨65151, 2, [1600, 1618]⟩, ⟨65153, 2, [1575, 1619, 1575,
  1619, 1575, 1620, 1575, 1620, 1608, 1620, 1608, 1620, 1575, 1621, 1575, 1621, 1610, 1620, 1610,
  1620, 1610, 1620, 1610, 1620]⟩, ⟨65269, 3, [1604, 1575, 1619, 1604, 1575, 1619, 1604, 1575, 1620,
  1604, 1575, 1620, 1604, 1575, 1621, 1604, 1575, 1621]⟩, ⟨65275, 2, [1604, 1575, 1604, 1575]⟩]

end EmbeddedTests.Text
