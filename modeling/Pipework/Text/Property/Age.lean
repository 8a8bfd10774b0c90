import Pipework.Text.Property.Runs

/-!
# Ages

The version of the Unicode standard in which each code point was assigned, as runs in code point
order. `NA` stands for a code point that is not assigned.
-/

namespace Pipework.Text.Property

/-- Runs of code points of one age: version and length, from U+0000 on. -/
def ageTable : List String := [
  "1.1:502 3.0:4 1.1:30 3.0:8 3.2:1 4.0:1 3.0:18 4.0:3 4.1:11 5.0:14 1.1:89 3.0:5 4.0:2 1.1:47",
  "3.0:1 1.1:10 3.0:5 4.0:17 1.1:70 3.0:9 3.2:1 4.0:8 4.1:5 4.0:3 1.1:2 3.0:1 3.2:13 5.1:4 1.1:2",
  "5.1:2 NA:2 1.1:1 5.0:3 1.1:1 7.0:1 NA:4 1.1:7 NA:1 1.1:1 NA:1 1.1:20 NA:1 1.1:44 5.1:1 1.1:7",
  "3.0:1 3.2:2 1.1:1 3.0:1 1.1:1 3.0:1 1.1:1 3.0:1 1.1:1 3.0:1 1.1:18 3.1:2 3.2:1 4.0:5 4.1:4",
  "3.0:1 1.1:12 3.0:1 1.1:66 3.0:1 1.1:12 3.0:1 1.1:41 5.1:1 3.0:2 3.2:2 3.0:4 1.1:53 3.2:2 1.1:2",
  "3.2:2 1.1:2 3.2:2 5.0:1 1.1:28 3.0:2 1.1:8 4.1:2 1.1:2 5.0:6 3.2:16 5.0:4 5.1:16 5.2:2 6.0:2",
  "7.0:8 NA:1 1.1:38 NA:2 1.1:7 11.0:1 1.1:39 11.0:1 1.1:1 3.0:1 NA:2 7.0:2 6.1:1 NA:1 2.0:17",
  "4.1:1 2.0:13 1.1:10 5.0:1 1.1:9 2.0:1 4.1:3 NA:8 1.1:27 NA:4 11.0:1 1.1:5 NA:11 4.0:4 6.1:1",
  "7.0:1 5.1:5 4.1:1 1.1:1 4.0:9 5.1:5 1.1:1 6.3:1 14.0:1 4.1:1 1.1:1 6.0:1 1.1:26 5.1:5 1.1:19",
  "3.0:3 4.0:3 4.1:6 6.0:1 1.1:14 3.2:2 1.1:72 3.0:2 1.1:5 3.0:1 1.1:15 3.0:1 1.1:30 4.0:2 1.1:10",
  "3.0:5 4.0:1 3.0:14 NA:1 3.0:30 4.0:3 3.0:27 NA:2 4.0:3 4.1:30 5.1:18 3.0:49 3.2:1 NA:14 5.0:59",
  "NA:2 11.0:3 5.2:46 NA:2 5.2:15 NA:1 6.0:28 NA:2 6.0:1 NA:1 10.0:11 NA:5 14.0:31 NA:1 14.0:2",
  "NA:5 16.0:1 14.0:8 6.1:1 7.0:1 6.1:11 7.0:6 8.0:2 14.0:1 9.0:8 13.0:10 14.0:11 11.0:1 9.0:15",
  "8.0:1 6.1:27 7.0:1 5.2:1 1.1:3 4.0:1 1.1:53 6.0:2 1.1:18 5.2:1 6.0:1 1.1:5 5.2:1 6.0:2 1.1:25",
  "5.1:2 6.0:5 7.0:1 5.2:2 5.0:2 4.1:1 5.0:2 7.0:1 1.1:3 NA:1 1.1:8 NA:2 1.1:2 NA:2 1.1:22 NA:1",
  "1.1:7 NA:1 1.1:1 NA:3 1.1:4 NA:2 1.1:1 4.0:1 1.1:7 NA:2 1.1:2 NA:2 1.1:3 4.1:1 NA:8 1.1:1 NA:4",
  "1.1:2 NA:1 1.1:5 NA:2 1.1:21 5.2:1 10.0:2 11.0:1 NA:2 4.0:1 1.1:1 4.0:1 NA:1 1.1:6 NA:4 1.1:2",
  "NA:2 1.1:22 NA:1 1.1:7 NA:1 1.1:2 NA:1 1.1:2 NA:1 1.1:2 NA:2 1.1:1 NA:1 1.1:5 NA:4 1.1:2 NA:2",
  "1.1:3 NA:3 5.1:1 NA:7 1.1:4 NA:1 1.1:1 NA:7 1.1:15 5.1:1 11.0:1 NA:10 1.1:3 NA:1 1.1:7 4.0:1",
  "1.1:1 NA:1 1.1:3 NA:1 1.1:22 NA:1 1.1:7 NA:1 1.1:2 NA:1 1.1:5 NA:2 1.1:10 NA:1 1.1:3 NA:1",
  "1.1:3 NA:2 1.1:1 NA:15 1.1:1 4.0:3 NA:2 1.1:10 6.1:1 4.0:1 NA:7 8.0:1 10.0:6 NA:1 1.1:3 NA:1",
  "1.1:8 NA:2 1.1:2 NA:2 1.1:22 NA:1 1.1:7 NA:1 1.1:2 NA:1 4.0:1 1.1:4 NA:2 1.1:8 5.1:1 NA:2",
  "1.1:2 NA:2 1.1:3 NA:7 13.0:1 1.1:2 NA:4 1.1:2 NA:1 1.1:3 5.1:2 NA:2 1.1:11 4.0:1 6.0:6 NA:10",
  "1.1:2 NA:1 1.1:6 NA:3 1.1:3 NA:1 1.1:4 NA:3 1.1:2 NA:1 1.1:1 NA:1 1.1:2 NA:3 1.1:2 NA:3 1.1:3",
  "NA:3 1.1:8 4.1:1 1.1:3 NA:4 1.1:5 NA:3 1.1:3 NA:1 1.1:4 NA:2 5.1:1 NA:6 1.1:1 NA:14 4.1:1",
  "1.1:12 4.0:8 NA:5 7.0:1 1.1:3 11.0:1 1.1:8 NA:1 1.1:3 NA:1 1.1:23 NA:1 1.1:10 7.0:1 1.1:5 NA:2",
  "14.0:1 5.1:1 1.1:7 NA:1 1.1:3 NA:1 1.1:4 NA:7 1.1:2 NA:1 5.1:2 8.0:1 NA:2 14.0:1 NA:2 1.1:2",
  "5.1:2 NA:2 1.1:10 NA:7 12.0:1 5.1:8 9.0:1 7.0:1 1.1:2 11.0:1 1.1:8 NA:1 1.1:3 NA:1 1.1:23 NA:1",
  "1.1:10 NA:1 1.1:5 NA:2 4.0:2 1.1:7 NA:1 1.1:3 NA:1 1.1:4 NA:7 1.1:2 NA:6 14.0:1 1.1:1 NA:1",
  "1.1:2 5.0:2 NA:2 1.1:10 NA:1 5.0:2 15.0:1 NA:12 10.0:1 7.0:1 1.1:2 13.0:1 1.1:8 NA:1 1.1:3",
  "NA:1 1.1:23 6.0:1 1.1:16 6.0:1 10.0:2 5.1:1 1.1:6 5.1:1 NA:1 1.1:3 NA:1 1.1:4 6.0:1 9.0:1 NA:4",
  "9.0:3 1.1:1 9.0:7 8.0:1 1.1:2 5.1:2 NA:2 1.1:10 5.1:6 9.0:3 5.1:7 NA:1 13.0:1 3.0:2 NA:1",
  "3.0:18 NA:3 3.0:24 NA:1 3.0:9 NA:1 3.0:1 NA:2 3.0:7 NA:3 3.0:1 NA:4 3.0:6 NA:1 3.0:1 NA:1",
  "3.0:8 NA:6 7.0:10 NA:2 3.0:3 NA:12 1.1:58 NA:4 1.1:29 NA:37 1.1:2 NA:1 1.1:1 NA:1 12.0:1 1.1:2",
  "12.0:1 1.1:1 NA:1 12.0:1 1.1:1 12.0:6 1.1:4 12.0:1 1.1:7 12.0:1 1.1:3 NA:1 1.1:1 NA:1 1.1:1",
  "12.0:2 1.1:2 12.0:1 1.1:13 12.0:1 1.1:3 NA:2 1.1:5 NA:1 1.1:1 NA:1 1.1:6 15.0:1 NA:1 1.1:10",
  "NA:2 1.1:2 6.1:2 NA:32 2.0:72 NA:1 2.0:33 3.0:1 5.1:2 NA:4 2.0:27 6.0:4 2.0:6 3.0:1 2.0:1 NA:1",
  "2.0:21 3.0:3 2.0:7 3.0:1 2.0:1 3.0:3 NA:1 3.0:15 NA:1 5.1:1 3.0:1 4.1:2 5.1:3 5.2:4 6.0:2",
  "NA:37 3.0:34 5.1:1 3.0:5 5.1:1 3.0:2 5.1:1 3.0:7 5.1:3 3.0:4 5.1:6 3.0:26 5.1:64 5.2:4 5.1:2",
  "1.1:38 NA:1 6.1:1 NA:5 6.1:1 NA:2 1.1:39 3.2:2 4.1:2 1.1:1 4.1:1 6.1:3 1.1:90 5.2:5 1.1:68",
  "5.2:5 1.1:82 5.2:6 3.0:7 4.1:1 3.0:63 4.1:1 3.0:1 NA:1 3.0:4 NA:2 3.0:7 NA:1 3.0:1 NA:1 3.0:4",
  "NA:2 3.0:39 4.1:1 3.0:1 NA:1 3.0:4 NA:2 3.0:31 4.1:1 3.0:1 NA:1 3.0:4 NA:2 3.0:7 NA:1 3.0:1",
  "NA:1 3.0:4 NA:2 3.0:7 4.1:1 3.0:7 NA:1 3.0:23 4.1:1 3.0:31 4.1:1 3.0:1 NA:1 3.0:4 NA:2 3.0:7",
  "4.1:1 3.0:39 4.1:1 3.0:19 NA:2 6.0:2 4.1:2 3.0:28 NA:3 4.1:26 NA:6 3.0:85 8.0:1 NA:2 8.0:6",
  "NA:2 5.2:1 3.0:630 5.2:9 3.0:29 NA:3 3.0:81 7.0:8 NA:7 3.2:13 14.0:1 3.2:7 14.0:1 NA:9 14.0:1",
  "3.2:23 NA:9 3.2:20 NA:12 3.2:13 NA:1 3.2:3 NA:1 3.2:2 NA:12 3.0:93 4.0:1 NA:2 3.0:10 NA:6",
  "4.0:10 NA:6 3.0:15 14.0:1 3.0:10 NA:6 3.0:88 11.0:1 NA:7 3.0:42 5.1:1 NA:5 5.2:70 NA:10 4.0:29",
  "7.0:2 NA:1 4.0:12 NA:4 4.0:12 NA:4 4.0:1 NA:3 4.0:42 NA:2 4.0:5 NA:11 4.1:42 5.2:2 NA:4 4.1:26",
  "NA:6 4.1:10 5.2:1 NA:3 4.1:2 4.0:32 4.1:28 NA:2 4.1:2 5.2:63 NA:1 5.2:29 NA:2 5.2:11 NA:6",
  "5.2:10 NA:6 5.2:14 NA:2 7.0:15 13.0:2 14.0:14 NA:49 5.0:76 14.0:1 NA:1 16.0:2 5.0:45 14.0:2",
  "16.0:1 5.1:43 6.1:3 5.1:12 6.1:6 6.0:52 NA:8 6.0:4 5.1:56 NA:3 5.1:15 NA:3 5.1:51 9.0:9 16.0:2",
  "NA:5 11.0:43 NA:2 11.0:3 6.1:8 NA:8 5.2:35 6.1:4 10.0:1 7.0:2 12.0:1 NA:5 4.0:108 4.1:88 5.0:7",
  "5.1:28 7.0:15 10.0:4 14.0:1 9.0:1 6.0:1 5.2:1 5.0:2 1.1:155 2.0:1 5.1:4 1.1:90 5.1:6 1.1:22",
  "NA:2 1.1:6 NA:2 1.1:38 NA:2 1.1:6 NA:2 1.1:8 NA:1 1.1:1 NA:1 1.1:1 NA:1 1.1:1 NA:1 1.1:31 NA:2",
  "1.1:53 NA:1 1.1:15 NA:1 1.1:14 NA:2 1.1:6 NA:1 1.1:19 NA:2 1.1:3 NA:1 1.1:9 NA:1 1.1:47 3.0:1",
  "1.1:23 3.2:1 3.0:6 3.2:5 4.0:2 4.1:2 3.2:1 4.1:7 3.2:5 5.1:1 NA:1 6.3:4 1.1:7 3.2:1 NA:2",
  "1.1:27 NA:1 4.1:5 6.0:8 NA:3 1.1:11 2.0:1 2.1:1 3.0:3 3.2:2 4.1:4 5.2:3 6.0:1 6.2:1 7.0:3",
  "8.0:1 10.0:1 14.0:1 NA:15 1.1:18 3.0:2 3.2:7 4.1:1 5.0:4 5.1:1 NA:15 1.1:57 3.0:2 4.0:1 4.1:1",
  "3.2:15 4.1:1 5.0:2 5.1:1 5.2:3 1.1:48 3.0:1 5.0:1 5.1:4 5.2:1 8.0:2 NA:4 1.1:91 3.0:9 3.2:12",
  "1.1:242 3.2:14 1.1:1 3.0:1 1.1:121 3.0:1 3.2:1 3.0:30 3.2:52 4.0:2 4.1:11 5.0:12 5.2:1 6.0:11",
  "7.0:7 9.0:4 10.0:1 1.1:37 3.0:2 16.0:3 NA:22 1.1:11 NA:21 1.1:139 3.2:20 4.0:1 1.1:150 3.2:10",
  "1.1:80 3.0:8 3.2:8 1.1:20 4.0:2 3.2:2 4.1:1 3.0:1 1.1:86 3.0:2 3.2:12 4.1:2 3.2:10 4.0:8",
  "4.1:11 5.1:1 5.2:2 4.0:2 4.1:16 5.0:1 5.1:10 5.2:3 5.1:4 5.2:10 6.0:1 5.2:19 6.0:1 5.2:1 6.0:4",
  "5.2:24 7.0:1 1.1:4 6.0:1 1.1:4 6.0:2 1.1:28 6.0:1 1.1:35 6.0:1 1.1:1 6.0:1 1.1:4 6.0:3 1.1:1",
  "5.2:1 1.1:7 6.0:2 1.1:7 3.2:14 1.1:31 6.0:3 1.1:24 6.0:1 1.1:14 6.0:1 4.1:7 5.0:4 6.1:1 5.1:1",
  "6.1:1 6.0:2 3.2:28 5.1:4 3.2:16 3.0:256 3.2:512 4.0:14 4.1:6 5.0:7 5.1:5 5.0:4 5.1:41 7.0:3",
  "5.1:5 5.2:5 7.0:26 NA:2 7.0:32 NA:1 13.0:1 7.0:34 11.0:3 7.0:12 12.0:1 7.0:8 10.0:1 11.0:25",
  "8.0:4 11.0:15 12.0:1 4.1:47 14.0:1 4.1:47 14.0:1 5.0:13 5.1:3 5.2:1 5.1:3 5.0:4 5.1:6 5.2:2",
  "4.1:107 5.2:7 6.1:2 NA:5 4.1:45 NA:1 6.1:1 NA:5 6.1:1 NA:2 4.1:54 6.1:2 NA:7 4.1:1 6.0:1 NA:14",
  "6.0:1 4.1:23 NA:9 4.1:7 NA:1 4.1:7 NA:1 4.1:7 NA:1 4.1:7 NA:1 4.1:7 NA:1 4.1:7 NA:1 4.1:7 NA:1",
  "4.1:7 NA:1 5.1:32 4.1:24 5.1:4 4.1:2 5.1:19 5.2:1 6.1:10 7.0:7 9.0:2 10.0:5 11.0:5 12.0:1",
  "13.0:3 14.0:11 NA:34 3.0:26 NA:1 3.0:89 NA:12 3.0:214 NA:26 3.0:12 15.1:4 1.1:56 3.0:3 3.2:3",
  "3.0:1 1.1:1 NA:1 1.1:84 3.2:2 NA:2 1.1:6 3.2:2 1.1:94 3.2:1 NA:5 1.1:40 5.1:1 10.0:1 11.0:1",
  "NA:1 1.1:94 NA:1 1.1:16 3.0:24 6.0:3 13.0:5 4.1:16 5.1:20 16.0:2 NA:9 15.1:1 3.2:16 1.1:29",
  "4.0:2 NA:1 1.1:36 5.2:12 4.0:1 3.2:15 1.1:28 4.0:2 4.1:1 1.1:50 3.2:15 1.1:12 4.0:4 1.1:47",
  "12.1:1 1.1:119 4.0:4 1.1:99 4.0:2 1.1:31 4.0:1 3.0:6582 13.0:10 4.0:64 1.1:20902 4.1:22 5.1:8",
  "5.2:8 6.1:1 8.0:9 10.0:21 11.0:5 13.0:13 14.0:3 3.0:1165 NA:3 3.0:18 3.2:2 3.0:16 3.2:1 3.0:12",
  "3.2:1 3.0:3 3.2:1 3.0:1 NA:9 5.2:48 5.1:300 NA:20 5.1:32 6.0:2 5.1:18 6.1:8 5.1:28 7.0:6 8.0:1",
  "6.1:1 5.2:88 NA:8 4.1:23 5.0:4 5.1:5 5.0:2 5.1:107 6.0:2 8.0:1 6.0:2 6.1:2 7.0:12 6.0:10 6.1:1",
  "7.0:3 9.0:1 11.0:1 7.0:2 8.0:6 11.0:2 12.0:6 14.0:2 12.0:5 13.0:4 16.0:3 NA:2 14.0:2 NA:1",
  "14.0:1 NA:1 14.0:5 16.0:3 NA:21 14.0:3 13.0:2 7.0:1 6.1:2 6.0:1 5.1:5 4.1:44 13.0:1 NA:3",
  "5.2:10 NA:6 5.0:56 NA:8 5.1:69 9.0:1 NA:8 5.1:12 NA:6 5.2:28 8.0:2 11.0:2 5.1:84 NA:11 5.1:1",
  "5.2:29 NA:3 5.2:78 NA:1 5.2:11 NA:4 5.2:2 7.0:31 NA:1 5.1:55 NA:9 5.1:14 NA:2 5.1:10 NA:2",
  "5.1:4 5.2:28 7.0:4 5.2:67 NA:24 5.2:5 6.1:23 NA:10 6.0:6 NA:2 6.0:6 NA:2 6.0:6 NA:9 6.0:7 NA:1",
  "6.0:7 NA:1 7.0:48 8.0:4 7.0:2 12.0:2 13.0:4 NA:4 8.0:80 5.2:46 NA:2 5.2:10 NA:6 2.0:11172",
  "NA:12 5.2:23 NA:4 5.2:49 NA:2052 1.1:6702 6.1:2 3.2:59 5.2:3 NA:2 4.1:106 NA:38 1.1:7 NA:12",
  "1.1:5 NA:5 3.0:1 1.1:25 NA:1 1.1:5 NA:1 1.1:1 NA:1 1.1:2 NA:1 1.1:2 NA:1 1.1:108 6.0:16 14.0:1",
  "NA:16 1.1:365 14.0:16 1.1:64 NA:2 1.1:54 NA:7 14.0:1 3.1:32 1.1:12 3.2:1 4.0:1 14.0:2 3.2:16",
  "4.1:10 NA:6 1.1:4 5.1:3 7.0:7 8.0:2 1.1:21 3.2:2 4.0:2 1.1:10 NA:1 1.1:19 NA:1 1.1:4 NA:4",
  "1.1:3 3.2:1 1.1:1 NA:1 1.1:135 NA:2 1.1:1 NA:1 1.1:94 3.2:2 1.1:94 NA:3 1.1:6 NA:2 1.1:6 NA:2",
  "1.1:6 NA:2 1.1:3 NA:3 1.1:7 NA:1 1.1:7 NA:10 3.0:3 2.1:1 1.1:3 4.0:12 NA:1 4.0:26 NA:1 4.0:19",
  "NA:1 4.0:2 NA:1 4.0:15 NA:2 4.0:14 NA:34 4.0:123 NA:5 4.0:3 NA:4 4.0:45 NA:3 4.0:9 4.1:75",
  "7.0:2 9.0:2 NA:1 5.1:12 13.0:1 NA:3 7.0:1 NA:47 5.1:46 NA:130 5.1:29 NA:3 5.1:49 NA:15 7.0:28",
  "NA:4 3.1:31 7.0:1 3.1:4 NA:9 10.0:3 3.1:27 NA:5 7.0:43 NA:5 4.0:30 NA:1 4.0:1 4.1:36 NA:4",
  "4.1:14 NA:42 3.1:38 4.0:2 3.1:38 4.0:80 NA:2 4.0:10 NA:6 9.0:36 NA:4 9.0:36 NA:4 7.0:40 NA:8",
  "7.0:52 NA:11 7.0:1 14.0:11 NA:1 14.0:15 NA:1 14.0:7 NA:1 14.0:2 NA:1 14.0:11 NA:1 14.0:15 NA:1",
  "14.0:7 NA:1 14.0:2 NA:3 16.0:52 NA:12 7.0:311 NA:9 7.0:22 NA:10 7.0:8 NA:24 14.0:6 NA:1",
  "14.0:42 NA:1 14.0:9 NA:69 4.0:6 NA:2 4.0:1 NA:1 4.0:44 NA:1 4.0:2 NA:3 4.0:1 NA:2 4.0:1 5.2:22",
  "NA:1 5.2:9 7.0:63 NA:8 7.0:9 NA:48 8.0:19 NA:1 8.0:2 NA:5 8.0:5 5.0:26 5.2:2 NA:3 5.0:1 5.1:26",
  "NA:5 5.1:1 NA:64 6.1:56 NA:4 8.0:2 6.1:2 8.0:16 NA:2 8.0:46 4.1:4 NA:1 4.1:2 NA:5 4.1:8 NA:1",
  "4.1:3 NA:1 4.1:27 11.0:2 NA:2 4.1:3 NA:4 4.1:9 11.0:1 NA:7 4.1:9 NA:7 5.2:32 7.0:32 NA:32",
  "7.0:39 NA:4 7.0:12 NA:9 5.2:54 NA:3 5.2:29 NA:2 5.2:27 NA:5 5.2:8 7.0:18 NA:7 7.0:4 NA:12",
  "7.0:7 NA:80 5.2:73 NA:55 8.0:51 NA:13 8.0:51 NA:7 8.0:6 11.0:40 NA:8 11.0:10 NA:6 16.0:38 NA:3",
  "16.0:29 NA:8 16.0:2 NA:208 5.2:31 NA:1 13.0:42 NA:1 13.0:3 NA:2 13.0:2 NA:16 16.0:3 NA:55",
  "16.0:1 15.0:3 11.0:40 NA:8 11.0:42 NA:22 14.0:26 NA:38 13.0:28 NA:20 12.0:23 NA:9 6.0:78 NA:4",
  "6.0:30 14.0:6 NA:9 7.0:1 5.2:66 14.0:1 NA:10 11.0:1 NA:2 6.1:25 NA:7 6.1:10 NA:6 6.1:53 NA:1",
  "6.1:14 11.0:3 13.0:1 NA:8 7.0:39 NA:9 6.1:73 8.0:4 7.0:1 13.0:2 6.1:10 7.0:1 8.0:5 NA:1 7.0:20",
  "NA:11 7.0:18 NA:1 7.0:43 9.0:1 15.0:3 NA:62 8.0:7 NA:1 8.0:1 NA:1 8.0:4 NA:1 8.0:15 NA:1",
  "8.0:11 NA:6 7.0:59 NA:5 7.0:10 NA:6 8.0:1 7.0:3 NA:1 7.0:8 NA:2 7.0:2 NA:2 7.0:22 NA:1 7.0:7",
  "NA:1 7.0:2 NA:1 7.0:5 NA:1 11.0:1 7.0:9 NA:2 7.0:2 NA:2 7.0:3 NA:2 8.0:1 NA:6 7.0:1 NA:5 7.0:7",
  "NA:2 7.0:7 NA:3 7.0:5 NA:11 16.0:10 NA:1 16.0:1 NA:2 16.0:1 NA:1 16.0:38 NA:1 16.0:10 NA:1",
  "16.0:1 NA:2 16.0:1 NA:1 16.0:4 NA:1 16.0:10 NA:1 16.0:2 NA:8 16.0:2 NA:29 9.0:90 13.0:1 9.0:1",
  "NA:1 9.0:1 11.0:1 12.0:1 13.0:2 NA:30 7.0:72 NA:8 7.0:10 NA:166 7.0:54 NA:2 7.0:18 8.0:20",
  "NA:34 7.0:69 NA:11 7.0:10 NA:6 9.0:13 NA:19 6.1:56 12.0:1 14.0:1 NA:6 6.1:10 NA:6 16.0:20",
  "NA:28 8.0:26 11.0:1 NA:2 8.0:15 NA:4 8.0:16 14.0:7 NA:185 11.0:60 NA:100 7.0:83 NA:12 7.0:1",
  "13.0:7 NA:2 13.0:1 NA:2 13.0:8 NA:1 13.0:2 NA:1 13.0:30 NA:1 13.0:2 NA:2 13.0:12 NA:9 13.0:10",
  "NA:70 12.0:8 NA:2 12.0:46 NA:2 12.0:11 NA:27 10.0:72 NA:8 10.0:52 12.0:2 10.0:23 11.0:1 10.0:5",
  "NA:13 14.0:16 7.0:57 NA:7 15.0:10 NA:182 16.0:34 NA:14 16.0:10 NA:6 9.0:9 NA:1 9.0:45 NA:1",
  "9.0:14 NA:10 9.0:29 NA:3 9.0:32 NA:2 9.0:22 NA:1 9.0:14 NA:73 10.0:7 NA:1 10.0:2 NA:1 10.0:44",
  "NA:3 10.0:1 NA:1 10.0:2 NA:1 10.0:9 NA:8 10.0:10 NA:6 11.0:6 NA:1 11.0:2 NA:1 11.0:37 NA:1",
  "11.0:2 NA:1 11.0:6 NA:7 11.0:10 NA:310 11.0:25 NA:7 15.0:17 NA:1 15.0:41 NA:3 15.0:28 16.0:1",
  "NA:85 13.0:1 NA:15 12.0:50 NA:13 12.0:1 5.0:879 7.0:42 8.0:1 NA:102 5.0:99 7.0:12 NA:1 5.0:4",
  "7.0:1 NA:11 8.0:196 NA:2636 14.0:99 NA:13 5.2:1071 15.0:1 12.0:9 15.0:29 NA:10 16.0:3995 NA:5",
  "8.0:583 NA:6841 16.0:58 NA:1734 6.0:569 NA:7 7.0:31 NA:1 7.0:10 NA:4 7.0:2 14.0:79 NA:1",
  "14.0:10 NA:6 7.0:30 NA:2 7.0:6 NA:10 7.0:70 NA:10 7.0:10 NA:1 7.0:7 NA:1 7.0:21 NA:5 7.0:19",
  "NA:432 16.0:58 NA:198 11.0:91 NA:101 6.1:69 12.0:6 NA:4 12.0:1 6.1:47 12.0:9 NA:7 6.1:17 NA:64",
  "9.0:1 10.0:1 12.0:2 13.0:1 NA:11 13.0:2 NA:14 9.0:6125 11.0:5 12.0:6 NA:8 9.0:755 13.0:483",
  "NA:41 16.0:1 13.0:9 NA:8935 14.0:4 NA:1 14.0:7 NA:1 14.0:2 NA:1 6.0:2 10.0:285 14.0:4 NA:15",
  "15.0:1 NA:29 12.0:3 NA:2 15.0:1 NA:14 12.0:4 NA:8 10.0:396 NA:2308 7.0:107 NA:5 7.0:13 NA:3",
  "7.0:9 NA:7 7.0:10 NA:2 7.0:8 NA:3932 16.0:250 NA:6 16.0:436 NA:76 14.0:46 NA:2 14.0:23 NA:9",
  "14.0:116 NA:60 3.1:246 NA:10 3.1:39 NA:2 5.1:1 3.1:180 8.0:11 14.0:2 NA:21 4.1:70 NA:122",
  "15.0:20 NA:12 11.0:20 NA:12 4.0:87 NA:9 5.0:18 11.0:7 NA:135 3.1:85 NA:1 3.1:71 NA:1 3.1:2",
  "NA:2 3.1:1 NA:2 3.1:2 NA:2 3.1:4 NA:1 3.1:12 NA:1 3.1:1 NA:1 3.1:4 4.0:1 3.1:2 NA:1 3.1:65",
  "NA:1 3.1:4 NA:2 3.1:8 NA:1 3.1:7 NA:1 3.1:28 NA:1 3.1:4 NA:1 3.1:5 NA:1 3.1:1 NA:3 3.1:7 NA:1",
  "3.1:338 4.1:2 NA:2 3.1:290 5.0:2 NA:2 3.1:50 8.0:652 NA:15 8.0:5 NA:1 8.0:15 NA:1104 14.0:31",
  "NA:6 15.0:6 NA:213 9.0:7 NA:1 9.0:17 NA:2 9.0:7 NA:1 9.0:2 NA:1 9.0:5 NA:5 15.0:62 NA:33",
  "15.0:1 NA:112 12.0:45 NA:3 12.0:14 NA:2 12.0:10 NA:4 12.0:2 NA:320 14.0:31 NA:17 12.0:58 NA:5",
  "12.0:1 NA:464 15.0:42 NA:214 16.0:43 NA:4 16.0:1 NA:480 14.0:7 NA:1 14.0:4 NA:1 14.0:2 NA:1",
  "14.0:15 NA:1 7.0:197 NA:2 7.0:16 NA:41 9.0:75 12.0:1 NA:4 9.0:10 NA:4 9.0:2 NA:785 11.0:68",
  "NA:76 12.0:61 NA:194 6.1:4 NA:1 6.1:27 NA:1 6.1:2 NA:1 6.1:1 NA:2 6.1:1 NA:1 6.1:10 NA:1 6.1:4",
  "NA:1 6.1:1 NA:1 6.1:1 NA:6 6.1:1 NA:4 6.1:1 NA:1 6.1:1 NA:1 6.1:1 NA:1 6.1:3 NA:1 6.1:2 NA:1",
  "6.1:1 NA:2 6.1:1 NA:1 6.1:1 NA:1 6.1:1 NA:1 6.1:1 NA:1 6.1:1 NA:1 6.1:2 NA:1 6.1:1 NA:2 6.1:4",
  "NA:1 6.1:7 NA:1 6.1:4 NA:1 6.1:4 NA:1 6.1:1 NA:1 6.1:10 NA:1 6.1:17 NA:5 6.1:3 NA:1 6.1:5 NA:1",
  "6.1:17 NA:52 6.1:2 NA:270 5.1:44 NA:4 5.1:100 NA:12 6.0:15 NA:2 6.0:14 7.0:1 NA:1 6.0:15 NA:1",
  "6.0:15 7.0:22 NA:10 5.2:11 7.0:2 13.0:3 5.2:31 11.0:1 6.0:1 5.2:1 6.0:11 5.2:1 6.0:1 5.2:1",
  "6.0:2 5.2:1 6.0:3 5.2:1 6.0:3 5.2:5 6.0:8 5.2:1 6.0:7 5.2:1 6.0:10 6.1:2 12.0:1 13.0:3 6.0:9",
  "5.2:1 6.0:1 5.2:2 6.0:2 5.2:1 6.0:10 5.2:4 6.0:2 5.2:1 6.0:10 9.0:18 13.0:1 NA:56 6.0:26 5.2:1",
  "6.0:2 NA:13 5.2:34 6.0:9 9.0:1 NA:4 5.2:9 NA:7 6.0:2 NA:14 10.0:6 NA:154 6.0:33 7.0:12 8.0:3",
  "6.0:6 7.0:1 6.0:70 7.0:1 8.0:2 6.0:20 7.0:12 6.0:37 7.0:1 6.0:5 7.0:4 8.0:5 7.0:12 6.0:17",
  "7.0:7 8.0:8 6.0:63 7.0:1 6.0:1 7.0:1 6.0:182 7.0:1 6.0:4 7.0:2 8.0:1 6.0:62 7.0:2 6.1:4 7.0:7",
  "8.0:5 6.0:24 7.0:18 9.0:1 7.0:41 9.0:1 7.0:86 6.0:5 6.1:1 6.0:16 6.1:1 6.0:3 6.1:1 6.0:1 6.1:1",
  "6.0:1 6.1:1 6.0:1 6.1:1 6.0:3 6.1:1 6.0:6 6.1:2 6.0:4 6.1:1 6.0:1 6.1:2 6.0:4 6.1:1 6.0:12",
  "7.0:2 8.0:2 6.0:11 7.0:48 6.0:70 7.0:10 8.0:1 9.0:2 10.0:2 12.0:1 13.0:2 NA:4 15.0:1 14.0:3",
  "7.0:13 NA:3 7.0:4 9.0:3 10.0:2 11.0:1 12.0:1 13.0:2 NA:3 6.0:116 15.0:3 NA:4 15.0:5 7.0:85",
  "11.0:4 15.0:1 NA:6 12.0:12 NA:4 14.0:1 NA:15 7.0:12 NA:4 7.0:56 NA:8 7.0:10 NA:6 7.0:40 NA:8",
  "7.0:30 NA:2 13.0:2 16.0:10 NA:4 16.0:2 NA:62 10.0:12 13.0:1 12.0:3 8.0:9 9.0:6 10.0:1 9.0:8",
  "10.0:8 9.0:1 10.0:2 9.0:12 12.0:1 9.0:12 10.0:1 11.0:3 9.0:15 10.0:13 11.0:5 12.0:1 13.0:1",
  "11.0:4 13.0:2 14.0:1 11.0:1 12.0:1 11.0:4 8.0:5 9.0:13 10.0:6 11.0:11 13.0:2 12.0:6 13.0:3",
  "12.0:2 11.0:10 12.0:6 8.0:1 11.0:2 12.0:8 13.0:1 14.0:1 12.0:3 10.0:23 11.0:25 12.0:84 NA:12",
  "11.0:14 NA:2 12.0:4 13.0:1 15.0:3 12.0:3 14.0:2 NA:3 12.0:3 13.0:4 15.0:2 16.0:1 NA:5 16.0:1",
  "12.0:6 13.0:19 14.0:4 15.0:3 13.0:7 14.0:4 15.0:3 16.0:1 15.0:1 13.0:3 14.0:3 16.0:1 NA:7",
  "15.0:2 13.0:7 14.0:3 15.0:2 16.0:1 NA:2 16.0:1 14.0:8 15.0:1 16.0:1 NA:6 14.0:7 15.0:2 NA:7",
  "13.0:147 NA:1 13.0:55 16.0:37 13.0:10 NA:1028 2.0:2 3.1:42711 13.0:7 14.0:2 NA:32 5.2:4149",
  "14.0:4 15.0:1 NA:6 6.0:222 NA:2 8.0:5762 NA:14 10.0:7473 NA:15 15.1:622 NA:2466 3.1:542",
  "NA:1504 2.0:2 13.0:4939 NA:5 15.0:4192 NA:56398 2.0:2 NA:65534 2.0:2 NA:65534 2.0:2 NA:65534",
  "2.0:2 NA:65534 2.0:2 NA:65534 2.0:2 NA:65534 2.0:2 NA:65534 2.0:2 NA:65534 2.0:2 NA:65534",
  "2.0:2 NA:65534 2.0:2 NA:1 3.1:1 NA:30 3.1:96 NA:128 4.0:240 NA:65038 2.0:131074"]

/-- The ranges of each age, in code point order. -/
def ageRuns : List (String × Nat × Nat) :=
  runsFrom 0 ((ageTable.flatMap wordsOf).filterMap fun entry =>
    (cutAt? ':' entry).map fun (age, length) => (age, number length.toList))

end Pipework.Text.Property
