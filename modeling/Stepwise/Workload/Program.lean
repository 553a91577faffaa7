import Stepwise.Text.Lines

/-!
# Programs of the workloads

The program texts that workloads run, some of them at a size.
-/

namespace Stepwise.Workload

/-- A text from its lines. -/
def ofLines (lines : List String) : String :=
  "\n".intercalate lines

/-- The whole numbers below a size. -/
def below (size : Int) : List Nat :=
  List.range size.toNat

/-- A program with one task and these lines in its only step. -/
def stepProgram (body : List String) : String :=
  ofLines (["objective \"O\"", "task \"T\":", "    step \"S\":"] ++
    body.map (fun line => "        " ++ line) ++ ["run \"T\""])

/-- A sum and its half, for a number of rounds. -/
def arithmeticProgram (size : Int) : String :=
  stepProgram ["total = 0", "half = 0", "for i in range(" ++ toString size ++ "):",
    "total = total + i * 2 - 1", "half = total / 2", "neg = -half", "end"]

/-- Loops over a list, which is read at its start afterwards. -/
def collectionsProgram (size : Int) : String :=
  let items := ", ".intercalate ((below size).map toString)
  stepProgram ["data = [" ++ items ++ "]",
    "info = \x7b\"count\": " ++ toString size ++ ", \"name\": \"bench\"\x7d", "total = 0",
    "for x in data:", "total = total + x", "end",
    "for idx, val in enumerate(data):", "total = total + val + idx", "end",
    "for k in range(len(data)):", "total = total + data[k]", "end",
    "cnt = info[\"count\"]", "tag = info[\"name\"] + info[\"name\"]", "first = data[0]"]

/-- A choice in every round. -/
def choicesProgram (size : Int) : String :=
  stepProgram ["counts = [0, 0, 0, 0]", "for i in range(" ++ toString size ++ "):", "decide:",
    "if i > 200 then:", "counts = counts + [3]",
    "elif i >= 100 then:", "counts = counts + [2]",
    "elif i < 10 then:", "counts = counts + [0]",
    "else:", "counts = counts + [1]",
    "decide:", "if i == 0 then:", "z = 1", "elif i != 0 then:", "z = 2", "end"]

/-- The sum of the whole numbers below a size. -/
def sumProgram (size : Int) : String :=
  stepProgram ["total = 0", "for i in range(" ++ toString size ++ "):", "total = total + i", "end"]

/-- A subtask that is called in every round. -/
def subtasksProgram (size : Int) : String :=
  ofLines ["objective \"O\"", "task \"T\":",
    "    step \"Init\":", "        cur = 0", "        acc = 0",
    "    subtask \"Double It\":", "        out = cur * 2", "        return out",
    "    subtask \"Side\":", "        sideval = 1",
    "    step \"S\":", "        for i in range(" ++ toString size ++ "):", "        cur = i",
    "        v = double_it()", "        acc = acc + v", "        end", "        w = Side()",
    "        print(acc, w)",
    "run \"T\""]

/-- A long program of assignments, of which snippets are taken. -/
def longProgram : String :=
  stepProgram ((below 400).map fun i => "x" ++ toString i ++ " = " ++ toString i) ++ "\n"

/-- Tasks of three lines each, and a run of each of them. -/
def tasksProgram (size : Int) : String :=
  let task (i : Nat) : List String :=
    ["task \"T" ++ toString i ++ "\":", "    step \"s\":", "        x = 1"]
  ofLines (["objective \"v\""] ++ (below size).flatMap task ++
    (below size).map fun i => "run \"T" ++ toString i ++ "\"")

/-- A program that uses every kind of statement. -/
def wholeProgramText : String :=
  ofLines
    ["objective \"Comprehensive bench program\"",
      "task \"Setup\":",
      "    step \"Init\":",
      "        numbers = [1, 2, 3, 4, 5, 6, 7, 8]",
      "        empty = []",
      "        pi = 3.14159",
      "        sci = 1.5e3",
      "        neg = -42",
      "        flag = 1",
      "        other = 0",
      "        name = 'alice'",
      "        mapping = \x7b\"a\": 1, \"b\": 2, \"c\": \x7b\"nested\": [10, 20]\x7d\x7d",
      "        blank = \x7b\x7d",
      "        total = 0",
      "task \"Compute\":",
      "    step \"Pre\":",
      "        cur = 0",
      "    subtask \"Helper\":",
      "        h = (1 + 2) * 3 - 4 / 2",
      "        return h",
      "    subtask \"NoRet\":",
      "        nr = 1",
      "    step \"Loops\":",
      "        for n in numbers:",
      "            total = total + n",
      "        end",
      "        for i in range(4):",
      "            total = total + i",
      "        end",
      "        for j in range(len(numbers)):",
      "            total = total + numbers[j]",
      "        end",
      "        for idx, val in enumerate(numbers):",
      "            total = total + idx + val",
      "        end",
      "        for _, val in enumerate(numbers):",
      "            total = total + val",
      "        end",
      "    step \"Decide\":",
      "        x = 5",
      "        decide:",
      "            if x > 10 then:",
      "                label = \"big\"",
      "            elif x >= 5 then:",
      "                label = \"mid\"",
      "            elif x <= 0 then:",
      "                label = \"neg\"",
      "            else:",
      "                label = \"small\"",
      "        decide:",
      "            if x < 0 then:",
      "                label2 = \"n\"",
      "            else:",
      "                label2 = \"p\"",
      "        decide:",
      "            if flag then:",
      "                label3 = \"yes\"",
      "        decide:",
      "            if x < 0 then:",
      "                label4 = \"no\"",
      "        decide:",
      "            if x == 5 then:",
      "                label4 = \"eq\"",
      "            elif x != 5 then:",
      "                label4 = \"ne\"",
      "    step \"Ops\":",
      "        a = 1 + 2",
      "        b = a - 1",
      "        c = b * 3",
      "        d = c / 2",
      "        e = -d",
      "        s = name + name",
      "        L = [1, 2] + [3, 4]",
      "        first = mapping[\"a\"]",
      "        deep = mapping[\"c\"][\"nested\"][1]",
      "        idx2 = numbers[2.0]",
      "        r = Helper()",
      "        sz = len(numbers)",
      "        tot = sum(numbers)",
      "        noargs = len([])",
      "    step \"Prints\":",
      "        print(name, pi, numbers, mapping, 1.25)",
      "run \"Setup\"",
      "run \"Compute\""]

end Stepwise.Workload
