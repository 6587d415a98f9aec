import PackageVitals.Text.Ranges

/-!
# Scripts

The scripts that a character with a fixed place in a host name belongs to:
the numeral sign to Greek, the two quotation signs to Hebrew, and the
middle dot to the scripts of Japanese. The tables are confined to the
characters that a host name may hold.
-/

namespace PackageVitals.Host

/-- The letters of Greek. -/
def greek : Text.Ranges := [
  (881, 881), (883, 883), (885, 885), (887, 887), (891, 893), (912, 912), (940, 974), (983, 983),
  (985, 985), (987, 987), (989, 989), (991, 991), (993, 993), (1011, 1011), (1016, 1016),
  (1019, 1020), (7462, 7466), (7936, 7943), (7952, 7957), (7968, 7975), (7984, 7991),
  (8000, 8005), (8016, 8023), (8032, 8039), (8048, 8048), (8050, 8050), (8052, 8052),
  (8054, 8054), (8056, 8056), (8058, 8058), (8060, 8060), (8112, 8113), (8118, 8118),
  (8134, 8134), (8144, 8146), (8150, 8151), (8160, 8162), (8164, 8167), (8182, 8182),
  (43877, 43877)]

/-- The letters of Hebrew. -/
def hebrew : Text.Ranges := [
  (1425, 1469), (1471, 1471), (1473, 1474), (1476, 1477), (1479, 1479), (1488, 1514),
  (1519, 1524), (64286, 64286)]

/-- The characters that Japanese is written in: Hiragana, Katakana and Han. -/
def japanese : Text.Ranges := [
  (12293, 12293), (12295, 12295), (12353, 12438), (12445, 12446), (12449, 12538), (12541, 12542),
  (12784, 12799), (13312, 19903), (19968, 40959), (64014, 64015), (64017, 64017), (64019, 64020),
  (64031, 64031), (64033, 64033), (64035, 64036), (64039, 64041), (94179, 94179), (94192, 94193),
  (110576, 110579), (110581, 110587), (110589, 110590), (110592, 110882), (110928, 110930),
  (110948, 110951), (131072, 173791), (173824, 177976), (177984, 178205), (178208, 183969),
  (183984, 191456), (196608, 201546)]

end PackageVitals.Host
