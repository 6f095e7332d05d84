/-!
# Supplements

Names of emoji from the blocks that were added last.
Every word is a name with the code points of its characters behind it.
-/

namespace UtilityCss.Emoji

def supplements : String :=
  "
    white_heart/1F90D brown_heart/1F90E pinching_hand/1F90F zipper-mouth_face/1F910
    zipper__mouth_face/1F910 money-mouth_face/1F911 money__mouth_face/1F911
    face_with_thermometer/1F912 nerd_face/1F913 thinking_face/1F914 face_with_head-bandage/1F915
    face_with_head__bandage/1F915 robot/1F916 robot_face/1F916 hugging_face/1F917 handshake/1F91D
    cowboy_hat_face/1F920 clown_face/1F921 nauseated_face/1F922
    rolling_on_the_floor_laughing/1F923 drooling_face/1F924 lying_face/1F925 sneezing_face/1F927
    face_with_raised_eyebrow/1F928 star-struck/1F929 zany_face/1F92A shushing_face/1F92B
    face_with_symbols_on_mouth/1F92C face_with_hand_over_mouth/1F92D face_vomiting/1F92E
    exploding_head/1F92F person_fencing/1F93A people_wrestling/1F93C
    women_wrestling/1F93C-200D-2640-FE0F men_wrestling/1F93C-200D-2642-FE0F diving_mask/1F93F
    wilted_flower/1F940 drum/1F941 clinking_glasses/1F942 tumbler_glass/1F943 spoon/1F944
    goal_net/1F945 1st_place_medal/1F947 2nd_place_medal/1F948 3rd_place_medal/1F949
    boxing_glove/1F94A martial_arts_uniform/1F94B curling_stone/1F94C lacrosse/1F94D
    softball/1F94E flying_disc/1F94F croissant/1F950 avocado/1F951 cucumber/1F952 bacon/1F953
    potato/1F954 carrot/1F955 baguette_bread/1F956 green_salad/1F957 shallow_pan_of_food/1F958
    stuffed_flatbread/1F959 glass_of_milk/1F95B peanuts/1F95C kiwi_fruit/1F95D pancakes/1F95E
    dumpling/1F95F fortune_cookie/1F960 takeout_box/1F961 chopsticks/1F962 bowl_with_spoon/1F963
    cup_with_straw/1F964 coconut/1F965 broccoli/1F966 pie/1F967 pretzel/1F968 cut_of_meat/1F969
    sandwich/1F96A canned_food/1F96B leafy_green/1F96C mango/1F96D moon_cake/1F96E bagel/1F96F
    smiling_face_with_3_hearts/1F970 yawning_face/1F971 partying_face/1F973 woozy_face/1F974
    hot_face/1F975 cold_face/1F976 pleading_face/1F97A sari/1F97B lab_coat/1F97C goggles/1F97D
    hiking_boot/1F97E flat_shoe/1F97F crab/1F980 lion_face/1F981 scorpion/1F982 turkey/1F983
    unicorn_face/1F984 eagle/1F985 duck/1F986 bat/1F987 shark/1F988 owl/1F989 fox_face/1F98A
    butterfly/1F98B deer/1F98C gorilla/1F98D lizard/1F98E rhinoceros/1F98F shrimp/1F990
    squid/1F991 giraffe/1F992 zebra/1F993 hedgehog/1F994 sauropod/1F995 t-rex/1F996 cricket/1F997
    kangaroo/1F998 llama/1F999 peacock/1F99A hippopotamus/1F99B parrot/1F99C raccoon/1F99D
    lobster/1F99E mosquito/1F99F microbe/1F9A0 badger/1F9A1 swan/1F9A2 sloth/1F9A5 otter/1F9A6
    orangutan/1F9A7 skunk/1F9A8 flamingo/1F9A9 oyster/1F9AA guide_dog/1F9AE probing_cane/1F9AF
    red_hair/1F9B0 curly_hair/1F9B1 bald/1F9B2 white_hair/1F9B3 bone/1F9B4 leg/1F9B5 foot/1F9B6
    tooth/1F9B7 superhero/1F9B8 supervillain/1F9B9 safety_vest/1F9BA ear_with_hearing_aid/1F9BB
    motorized_wheelchair/1F9BC manual_wheelchair/1F9BD mechanical_arm/1F9BE mechanical_leg/1F9BF
    cheese_wedge/1F9C0 cupcake/1F9C1 salt/1F9C2 beverage_box/1F9C3 garlic/1F9C4 onion/1F9C5
    falafel/1F9C6 waffle/1F9C7 butter/1F9C8 mate/1F9C9 ice/1F9CA person_standing/1F9CD
    person_kneeling/1F9CE deaf_person/1F9CF face_with_monocle/1F9D0
    people_holding_hands/1F9D1-200D-1F91D-200D-1F9D1 genie/1F9DE woman_genie/1F9DE-200D-2640-FE0F
    man_genie/1F9DE-200D-2642-FE0F zombie/1F9DF woman_zombie/1F9DF-200D-2640-FE0F
    man_zombie/1F9DF-200D-2642-FE0F brain/1F9E0 orange_heart/1F9E1 billed_cap/1F9E2 scarf/1F9E3
    gloves/1F9E4 coat/1F9E5 socks/1F9E6 red_envelope/1F9E7 firecracker/1F9E8 jigsaw/1F9E9
    test_tube/1F9EA petri_dish/1F9EB dna/1F9EC compass/1F9ED abacus/1F9EE fire_extinguisher/1F9EF
    toolbox/1F9F0 brick/1F9F1 magnet/1F9F2 luggage/1F9F3 lotion_bottle/1F9F4 thread/1F9F5
    yarn/1F9F6 safety_pin/1F9F7 teddy_bear/1F9F8 broom/1F9F9 basket/1F9FA roll_of_paper/1F9FB
    soap/1F9FC sponge/1F9FD receipt/1F9FE nazar_amulet/1F9FF ballet_shoes/1FA70
    one-piece_swimsuit/1FA71 briefs/1FA72 shorts/1FA73 drop_of_blood/1FA78 adhesive_bandage/1FA79
    stethoscope/1FA7A yo-yo/1FA80 kite/1FA81 ringed_planet/1FA90 chair/1FA91 razor/1FA92 axe/1FA93
    diya_lamp/1FA94 banjo/1FA95
  "

end UtilityCss.Emoji
